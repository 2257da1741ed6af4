import TreeDump.Proofs.Reader.Agreement

/-! Parentheses and what else may begin with one. An opening parenthesis begins no other token. A closing
one may begin the name of a declaration, and nothing else. -/
namespace TreeDump

/-- A table where no key begins with a parenthesis. -/
def KeyTable.ParenFree (table : KeyTable) : Prop :=
  ∀ k ∈ table.keys, ∀ c ∈ k.name.head?, c ≠ '(' ∧ c ≠ ')'

lemma KeyTable.parenFree_standard : standard.ParenFree := by
  simp [ParenFree, standard]

namespace Text

lemma startsWith_iff (c : Char) (t : Text) : startsWith c t = true ↔ ∃ rest, t = c :: rest := by
  cases t with
  | nil => simp [startsWith]
  | cons d r => simp [startsWith]

end Text

namespace Kind

variable {keys : KeyTable} {p : Char}

lemma startsGeneric_paren (hp : p = '(' ∨ p = ')') (r : Text) : Key.startsGeneric (p :: r) = false := by
  rcases hp with rfl | rfl <;> rfl

lemma starts_key_paren (hk : keys.ParenFree) (hp : p = '(' ∨ p = ')') (r : Text) :
    Key.starts keys (p :: r) = false := by
  rw [Key.starts, startsGeneric_paren hp, Bool.or_false, List.any_eq_false]
  intro k hm hprefix
  obtain ⟨c, name, hname⟩ := List.exists_cons_of_ne_nil k.name_ne_nil
  have hc := hk k hm c (by simp [hname])
  have hcp : c = p := by
    have h := List.isPrefixOf_iff_prefix.1 hprefix
    rw [ComposedKey.text, hname] at h
    exact (List.cons_prefix_cons.1 h).1
  rcases hp with rfl | rfl
  · exact hc.1 hcp
  · exact hc.2 hcp

/-- A parenthesis begins itself, and else only the name of a declaration. -/
lemma starts_paren (hk : keys.ParenFree) (hp : p = '(' ∨ p = ')') (r : Text) {asked : Kind}
    (ho : asked ≠ .openParen) (hc : asked ≠ .closeParen) (hd : asked ≠ .declaration) :
    asked.starts keys (p :: r) = false := by
  cases asked with
  | openParen => exact absurd rfl ho
  | closeParen => exact absurd rfl hc
  | key => exact starts_key_paren hk hp r
  | declaration => exact absurd rfl hd
  | identifier | doubleQuoted | singleQuoted | bracketed | identifierOrString | location =>
    rcases hp with rfl | rfl <;> cases r <;> rfl

lemma starts_openParen (hk : keys.ParenFree) (r : Text) {asked : Kind} (ho : asked ≠ .openParen) :
    asked.starts keys ('(' :: r) = false := by
  by_cases hc : asked = .closeParen
  · subst hc
    rfl
  · by_cases hd : asked = .declaration
    · subst hd
      rfl
    · exact starts_paren hk (.inl rfl) r ho hc hd

lemma starts_closeParen (hk : keys.ParenFree) (r : Text) {asked : Kind} (hc : asked ≠ .closeParen)
    (hd : asked ≠ .declaration) : asked.starts keys (')' :: r) = false := by
  by_cases ho : asked = .openParen
  · subst ho
    rfl
  · exact starts_paren hk (.inr rfl) r ho hc hd

end Kind

namespace Declaration

lemma starts_cons_iff {c : Char} (hc : c ≠ '(') (r : Text) :
    starts (c :: r) = true ↔
      ∃ tail rest, r = tail ++ '@' :: rest ∧ ∀ e ∈ tail, isTailChar e = true := by
  rw [← readName?_isSome, Option.isSome_iff_exists]
  constructor
  · rintro ⟨⟨name, rest⟩, h⟩
    obtain ⟨d, tail, -, -, ht, he⟩ := readName?_eq_some_iff.1 h
    exact ⟨tail, rest, (List.cons.inj he).2, ht⟩
  · rintro ⟨tail, rest, rfl, ht⟩
    exact ⟨_, readName?_append hc ht rest⟩

end Declaration

namespace Reader

lemma canRead_openParen_iff (r : Reader) :
    (r.canRead .openParen).1 = true ↔ ∃ rest, r.skipGap.remaining = '(' :: rest :=
  Text.startsWith_iff '(' r.skipGap.remaining

lemma canRead_closeParen_iff (r : Reader) :
    (r.canRead .closeParen).1 = true ↔ ∃ rest, r.skipGap.remaining = ')' :: rest :=
  Text.startsWith_iff ')' r.skipGap.remaining

lemma canRead_of_openParen {r : Reader} (hk : r.keys.ParenFree) (h : (r.canRead .openParen).1 = true)
    {asked : Kind} (ho : asked ≠ .openParen) : (r.canRead asked).1 = false := by
  obtain ⟨rest, hr⟩ := (canRead_openParen_iff r).1 h
  simp only [canRead, keys_skipGap, hr]
  exact Kind.starts_openParen hk rest ho

lemma canRead_of_closeParen {r : Reader} (hk : r.keys.ParenFree)
    (h : (r.canRead .closeParen).1 = true) {asked : Kind} (hc : asked ≠ .closeParen)
    (hd : asked ≠ .declaration) : (r.canRead asked).1 = false := by
  obtain ⟨rest, hr⟩ := (canRead_closeParen_iff r).1 h
  simp only [canRead, keys_skipGap, hr]
  exact Kind.starts_closeParen hk rest hc hd

lemma canRead_declaration_of_closeParen {r : Reader} (h : (r.canRead .closeParen).1 = true) :
    (r.canRead .declaration).1 = true ↔
      ∃ tail rest, r.skipGap.remaining = ')' :: (tail ++ '@' :: rest) ∧
        ∀ e ∈ tail, Declaration.isTailChar e = true := by
  obtain ⟨rest, hr⟩ := (canRead_closeParen_iff r).1 h
  change Declaration.starts r.skipGap.remaining = true ↔ _
  simp only [hr, List.cons.injEq, true_and]
  exact Declaration.starts_cons_iff (by decide) rest

/-- The first of some kinds that stands at the cursor, found as a caller finds it: by asking for each in
turn, until one does. -/
def firstStanding (r : Reader) : List Kind → Option Kind
  | [] => none
  | asked :: more => if (r.canRead asked).1 then some asked else (r.canRead asked).2.firstStanding more

lemma firstStanding_eq_find? (r : Reader) (order : List Kind) :
    r.firstStanding order = order.find? fun asked => (r.canRead asked).1 := by
  induction order generalizing r with
  | nil => rfl
  | cons asked more ih =>
    -- The gap is skipped by the first question, and so the others find what it would have found.
    have hlater : ∀ kind, (r.skipGap.canRead kind).1 = (r.canRead kind).1 := by
      intro kind
      simp only [canRead, skipGap_skipGap]
    have hmore : (r.canRead asked).2.firstStanding more =
        more.find? fun kind => (r.canRead kind).1 := by
      rw [ih]
      exact congrArg (more.find? ·) (funext hlater)
    rw [firstStanding, List.find?_cons, hmore]
    cases (r.canRead asked).1 <;> rfl

lemma firstStanding_of_only {r : Reader} {order : List Kind} {asked : Kind}
    (h : (r.canRead asked).1 = true) (hm : asked ∈ order)
    (only : ∀ kind ∈ order, kind ≠ asked → (r.canRead kind).1 = false) :
    r.firstStanding order = some asked := by
  have hsome : (order.find? fun kind => (r.canRead kind).1).isSome = true :=
    List.find?_isSome.2 ⟨asked, hm, h⟩
  obtain ⟨kind, hk⟩ := Option.isSome_iff_exists.1 hsome
  have hstands : (r.canRead kind).1 = true :=
    List.find?_some (p := fun kind => (r.canRead kind).1) hk
  have he : kind = asked := by
    by_contra hne
    rw [only kind (List.mem_of_find?_eq_some hk) hne] at hstands
    cases hstands
  rw [firstStanding_eq_find?, hk, he]

lemma firstStanding_append {r : Reader} {earlier : List Kind} {asked : Kind}
    (h : r.firstStanding earlier = some asked) (later : List Kind) :
    r.firstStanding (earlier ++ later) = some asked := by
  rw [firstStanding_eq_find?] at h ⊢
  rw [List.find?_append, h, Option.some_or]

/-- Under the table that is used where none is set, and in every state that a run can reach: where an
opening parenthesis stands nothing else does, and it is found in whatever order the kinds are tried.
Where a closing one stands nothing else does but perhaps a declaration whose name begins with it, so it
is found in every order that tries it before a declaration. -/
theorem parens_unambiguous (dump : Text) (sink : Option Sink) (requests : List Request) :
    let r := ((ofText dump .standard sink).run requests).reader
    ((r.canRead .openParen).1 = true →
      (∀ asked, asked ≠ .openParen → (r.canRead asked).1 = false) ∧
      ∀ order, .openParen ∈ order → r.firstStanding order = some .openParen) ∧
    ((r.canRead .closeParen).1 = true →
      (∀ asked, asked ≠ .closeParen → asked ≠ .declaration → (r.canRead asked).1 = false) ∧
      ((r.canRead .declaration).1 = true ↔
        ∃ tail rest, r.skipGap.remaining = ')' :: (tail ++ '@' :: rest) ∧
          ∀ e ∈ tail, Declaration.isTailChar e = true) ∧
      ∀ earlier later, .declaration ∉ earlier →
        r.firstStanding (earlier ++ .closeParen :: later) = some .closeParen) := by
  intro r
  have hk : r.keys.ParenFree := by
    have hkeys : r.keys = .standard := keys_run (ofText dump .standard sink) requests
    rw [hkeys]
    exact KeyTable.parenFree_standard
  refine ⟨fun hopen => ⟨fun asked => canRead_of_openParen hk hopen, ?_⟩,
    fun hclose => ⟨fun asked => canRead_of_closeParen hk hclose,
      canRead_declaration_of_closeParen hclose, ?_⟩⟩
  · intro order hm
    exact firstStanding_of_only hopen hm fun asked _ ho => canRead_of_openParen hk hopen ho
  · intro earlier later hn
    rw [List.append_cons]
    apply firstStanding_append
    apply firstStanding_of_only hclose (by simp)
    intro asked hm hc
    apply canRead_of_closeParen hk hclose hc
    rintro rfl
    simp [hn] at hm

theorem parens_unambiguous_nested :
    let r := ((ofText "( ()".toList .standard none).run [.read .openParen]).reader
    let s := (r.read .openParen).reader
    (r.canRead .openParen).1 = true ∧ (r.canRead .identifierOrString).1 = false ∧
      r.firstStanding Kind.all.reverse = some .openParen ∧
      (s.canRead .closeParen).1 = true ∧ (s.canRead .declaration).1 = false ∧
      s.firstStanding Kind.all = some .closeParen := by
  have hopen := (parens_unambiguous "( ()".toList none [.read .openParen]).1 (by rfl)
  have hclose :=
    (parens_unambiguous "( ()".toList none [.read .openParen, .read .openParen]).2 (by rfl)
  refine ⟨by rfl, hopen.1 .identifierOrString (by decide), hopen.2 _ (by decide), by rfl, by rfl, ?_⟩
  exact hclose.2.2 [.openParen] _ (by decide)

/-- A closing parenthesis in front of which a group is still open, and with which a declaration begins. -/
theorem declaration_starts_with_closeParen :
    let r := ((ofText "(a)b@f:1:2".toList .standard none).run
      [.read .openParen, .read .identifier]).reader
    (r.canRead .closeParen).1 = true ∧ (r.canRead .declaration).1 = true ∧
      (r.read .declaration).answer =
        .ok (.declaration ⟨")b".toList, [], ⟨"f".toList, "1".toList, "2".toList⟩⟩) ∧
      ((r.read .declaration).reader).depth = 1 := by
  exact ⟨by rfl, by rfl, by rfl, by rfl⟩

end Reader
end TreeDump
