import TreeDump.Proofs.Reader.Step
import TreeDump.Proofs.Token.Written

/-! Asking and reading agree. What is asked is decided without reading, by tests of their own, and a
read succeeds exactly where the test holds. -/
namespace TreeDump

namespace Declaration

/-- A declaration can be read where its name stands and a location behind the gap after that. -/
lemma read?_isSome_iff (t : Text) :
    (read? t).isSome = true ↔
      ∃ name rest, readName? t = some (name, rest) ∧ Location.starts (Text.skipGap rest) = true := by
  unfold read?
  cases hn : readName? t with
  | none => simp
  | some p =>
    obtain ⟨name, rest⟩ := p
    have hs := Location.read?_isSome (Text.skipGap rest)
    cases hl : Location.read? (Text.skipGap rest) with
    | none =>
      rw [hl] at hs
      simp [hl, ← hs]
    | some q =>
      rw [hl] at hs
      simp [hl, ← hs]

end Declaration

namespace Token

lemma findSome?_of_find? {α β : Type} {f : α → Option β} {l : List α} {a : α}
    (h : l.find? (fun b => (f b).isSome) = some a) : l.findSome? f = f a := by
  induction l with
  | nil => cases h
  | cons b more ih =>
    rw [List.find?_cons] at h
    rw [List.findSome?_cons]
    cases hb : f b with
    | none =>
      simp only [hb, Option.isSome_none] at h
      exact ih h
    | some found =>
      simp only [hb, Option.isSome_some, Option.some.injEq] at h
      rw [← h, hb]

/-- Each of the kinds that an identifier or string may turn out to be can be read where it stands. -/
lemma read?_isSome_of_mem {kind : Kind} (hk : kind ∈ alternatives) (keys : KeyTable) (t : Text) :
    (read? keys t kind).isSome = kind.starts keys t := by
  apply read?_isSome
  · rintro rfl
    exact absurd hk (by decide)
  · rintro rfl
    exact absurd hk (by decide)

lemma read?_identifierOrString_isSome (keys : KeyTable) (t : Text) :
    (read? keys t .identifierOrString).isSome =
      (Kind.starts keys t .openParen || Kind.starts keys t .identifierOrString) := by
  rw [read?_identifierOrString, Bool.eq_iff_iff, List.findSome?_isSome_iff]
  have he : (∃ kind ∈ alternatives, (read? keys t kind).isSome = true) ↔
      ∃ kind ∈ alternatives, kind.starts keys t = true := by
    apply exists_congr
    intro kind
    apply and_congr_right
    intro hk
    rw [read?_isSome_of_mem hk]
  rw [he]
  simp only [alternatives, List.mem_cons, List.not_mem_nil, or_false, exists_eq_or_imp,
    exists_eq_left, Kind.starts, Bool.or_eq_true]
  tauto

/-- The first kind that stands there decides what an identifier or string is. -/
lemma exists_find?_of_isSome {keys : KeyTable} {t : Text}
    (h : (read? keys t .identifierOrString).isSome = true) :
    ∃ kind, alternatives.find? (fun kind => kind.starts keys t) = some kind ∧
      (read? keys t kind).isSome = true ∧
      read? keys t .identifierOrString = read? keys t kind := by
  have he : alternatives.find? (fun kind => kind.starts keys t) =
      alternatives.find? (fun kind => (read? keys t kind).isSome) := by
    rw [← List.head?_filter, ← List.head?_filter]
    congr 1
    apply List.filter_congr
    intro kind hk
    exact (read?_isSome_of_mem hk keys t).symm
  rw [read?_identifierOrString] at h ⊢
  rw [List.findSome?_isSome_iff, ← List.find?_isSome] at h
  obtain ⟨kind, hk⟩ := Option.isSome_iff_exists.1 h
  have hsome := List.find?_some (p := fun kind => (read? keys t kind).isSome) hk
  exact ⟨kind, he.trans hk, hsome, findSome?_of_find? hk⟩

end Token

namespace Reader

lemma read_ok_iff (r : Reader) (asked : Kind) :
    (∃ token, (r.read asked).answer = .ok token) ↔
      (Token.read? r.skipGap.keys r.skipGap.remaining asked).isSome = true := by
  rw [Option.isSome_iff_exists]
  constructor
  · rintro ⟨token, h⟩
    obtain ⟨rest, hr⟩ := exists_of_read_ok h
    exact ⟨(token, rest), hr⟩
  · rintro ⟨p, hp⟩
    exact ⟨p.1, congrArg Reply.answer (read_of_some hp)⟩

/-- What is read decides all that a successful read does. -/
lemma read_congr {r : Reader} {asked kind : Kind}
    (hs : (Token.read? r.skipGap.keys r.skipGap.remaining kind).isSome = true)
    (he : Token.read? r.skipGap.keys r.skipGap.remaining asked =
      Token.read? r.skipGap.keys r.skipGap.remaining kind) : r.read asked = r.read kind := by
  obtain ⟨p, hp⟩ := Option.isSome_iff_exists.1 hs
  rw [read_of_some hp, read_of_some (he.trans hp)]

lemma read_ok_iff_canRead (r : Reader) {asked : Kind} (hs : asked ≠ .identifierOrString)
    (hd : asked ≠ .declaration) :
    (∃ token, (r.read asked).answer = .ok token) ↔ (r.canRead asked).1 = true := by
  rw [read_ok_iff, Token.read?_isSome _ _ _ hs hd]
  rfl

lemma read_identifierOrString_ok_iff (r : Reader) :
    (∃ token, (r.read .identifierOrString).answer = .ok token) ↔
      (r.canRead .openParen).1 = true ∨ (r.canRead .identifierOrString).1 = true := by
  rw [read_ok_iff, Token.read?_identifierOrString_isSome, Bool.or_eq_true]
  rfl

lemma payload_read_openParen {r : Reader} {token : Token}
    (h : (r.read .openParen).answer = .ok token) : token.payload = [] := by
  obtain ⟨rest, hr⟩ := exists_of_read_ok h
  rw [(Token.eq_of_readChar? hr).1]
  rfl

/-- The read for an identifier or string is the read for the first of its kinds that stands there. -/
lemma read_identifierOrString_eq {r : Reader} {token : Token}
    (h : (r.read .identifierOrString).answer = .ok token) :
    ∃ kind, Token.alternatives.find? (fun kind => (r.canRead kind).1) = some kind ∧
      r.read .identifierOrString = r.read kind ∧ (kind = .openParen → token.payload = []) := by
  obtain ⟨kind, hfirst, hsome, he⟩ :=
    Token.exists_find?_of_isSome ((read_ok_iff r .identifierOrString).1 ⟨token, h⟩)
  have hread := read_congr hsome he
  refine ⟨kind, hfirst, hread, ?_⟩
  rintro rfl
  rw [hread] at h
  exact payload_read_openParen h

lemma read_declaration_ok_iff (r : Reader) :
    (∃ token, (r.read .declaration).answer = .ok token) ↔
      (r.canRead .declaration).1 = true ∧
      ∃ c tail rest, r.skipGap.remaining = c :: (tail ++ '@' :: rest) ∧
        (∀ e ∈ tail, Declaration.isTailChar e = true) ∧
        Location.starts (Text.skipGap rest) = true := by
  rw [read_ok_iff]
  change (Token.readAs? _ (Declaration.read? r.skipGap.remaining)).isSome = true ↔
    Declaration.starts r.skipGap.remaining = true ∧ _
  rw [Token.readAs?_isSome, Declaration.read?_isSome_iff, ← Declaration.readName?_isSome]
  constructor
  · rintro ⟨name, rest, hn, hl⟩
    obtain ⟨c, tail, -, -, ht, hr⟩ := Declaration.readName?_eq_some_iff.1 hn
    exact ⟨by rw [hn]; rfl, c, tail, rest, hr, ht, hl⟩
  · rintro ⟨hn, c, tail, rest, hr, ht, hl⟩
    -- A name stands here, so its first character is no parenthesis.
    have hc : c ≠ '(' := by
      rintro rfl
      rw [hr] at hn
      cases hn
    exact ⟨c :: tail, rest, Declaration.readName?_eq_some_iff.2 ⟨c, tail, rfl, hc, ht, hr⟩, hl⟩

/-- Of any reader, in whatever state: a kind can be read exactly where it stands. An identifier or
string stands for the first of its kinds there, and is read as that kind is. A declaration needs a
location too, behind its name and a gap. A read that fails names the kind that it was asked for. -/
theorem read_agrees (r : Reader) :
    (∀ asked, asked ≠ .identifierOrString → asked ≠ .declaration →
      ((∃ token, (r.read asked).answer = .ok token) ↔ (r.canRead asked).1 = true)) ∧
    ((∃ token, (r.read .identifierOrString).answer = .ok token) ↔
      (r.canRead .openParen).1 = true ∨ (r.canRead .identifierOrString).1 = true) ∧
    (∀ token, (r.read .identifierOrString).answer = .ok token →
      ∃ kind, [.openParen, .doubleQuoted, .singleQuoted, .bracketed, .identifier].find?
          (fun kind => (r.canRead kind).1) = some kind ∧
        r.read .identifierOrString = r.read kind ∧ (kind = .openParen → token.payload = [])) ∧
    ((∃ token, (r.read .declaration).answer = .ok token) ↔
      (r.canRead .declaration).1 = true ∧
      ∃ c tail rest, r.skipGap.remaining = c :: (tail ++ '@' :: rest) ∧
        (∀ e ∈ tail, Declaration.isTailChar e = true) ∧
        Location.starts (Text.skipGap rest) = true) ∧
    ∀ asked e, (r.read asked).answer = .error e →
      e.expected? = some asked ∧ ∃ place found, e = .contractViolation asked place found := by
  refine ⟨fun asked => r.read_ok_iff_canRead, r.read_identifierOrString_ok_iff, ?_,
    r.read_declaration_ok_iff, ?_⟩
  · intro token h
    exact read_identifierOrString_eq h
  · intro asked e h
    rw [error_of_read h]
    exact ⟨rfl, _, _, rfl⟩

end Reader
end TreeDump
