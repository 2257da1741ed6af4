import Mathlib.Data.List.TakeWhile
import Mathlib.Data.Option.Basic
import TreeDump.Proofs.Token.Boundary

/-! What is read can be written. A token that a reader finds is one that can be written, it ends where
it was found to end, and it is read again wherever it stands in front of a text that keeps apart. -/
namespace TreeDump
namespace Delimiters

variable {d : Delimiters}

lemma written_of_read? {t content rest : Text} (h : d.read? t = some (content, rest)) :
    d.Written content := by
  cases t with
  | nil => cases h
  | cons o r =>
    simp only [read?] at h
    split at h
    · split at h
      · next c tail e last hc hl =>
        cases h
        refine ⟨List.cons_ne_nil c tail, ?_⟩
        intro hm
        rw [← hc] at hm
        have hne := List.mem_takeWhile_imp hm
        simp at hne
      · cases h
    · cases h

lemma read?_cons_of_ne {c : Char} (h : c ≠ d.opening) (r : Text) : d.read? (c :: r) = none := by
  simp [read?, h]

lemma starts_iff (t : Text) :
    d.starts t = true ↔ ∃ c r, t = d.opening :: c :: r ∧ c ≠ d.closing ∧ d.closing ∈ r := by
  cases t with
  | nil => simp [starts]
  | cons o r =>
    cases r with
    | nil => simp [starts]
    | cons c q => simp [starts, and_assoc]

/-- Behind a text that the delimiters do not close at once, only a closing delimiter somewhere makes a
string of it. -/
lemma starts_append_of_mem {s t u : Text} (hs : s ≠ []) (ht : ∀ c ∈ t.head?, c ≠ d.closing)
    (hm : d.closing ∈ u → d.closing ∈ t) (hu : d.starts (s ++ u) = true) :
    d.starts (s ++ t) = true := by
  obtain ⟨c, r, he, hc, hr⟩ := (starts_iff _).1 hu
  obtain ⟨o, s', rfl⟩ := List.exists_cons_of_ne_nil hs
  rw [List.cons_append, List.cons.injEq] at he
  obtain ⟨rfl, he⟩ := he
  apply (starts_iff _).2
  cases s' with
  | nil =>
    have hu' : u = c :: r := he
    have hmem := hm (by rw [hu']; exact List.mem_cons_of_mem c hr)
    cases t with
    | nil => cases hmem
    | cons e q =>
      have hne : e ≠ d.closing := ht e rfl
      exact ⟨e, q, rfl, hne, (List.mem_cons.1 hmem).resolve_left hne.symm⟩
  | cons e s'' =>
    rw [List.cons_append, List.cons.injEq] at he
    obtain ⟨rfl, rfl⟩ := he
    refine ⟨e, s'' ++ t, rfl, hc, List.mem_append.2 ?_⟩
    exact (List.mem_append.1 hr).imp_right hm

end Delimiters

namespace Identifier

lemma gapless_split (depth : Nat) (t : Text) : ∀ c ∈ (split depth t).1, Text.isGap c = false := by
  fun_induction split depth t with
  | case1 | case2 | case4 => simp
  | case3 depth r name rest hr hg ih =>
    rw [hr] at ih
    exact List.forall_mem_cons.2 ⟨Bool.eq_false_iff.2 hg, ih⟩
  | case5 r outer name rest hr hg _ ih =>
    rw [hr] at ih
    exact List.forall_mem_cons.2 ⟨Bool.eq_false_iff.2 hg, ih⟩
  | case6 depth c r hg _ _ name rest hr ih =>
    rw [hr] at ih
    exact List.forall_mem_cons.2 ⟨Bool.eq_false_iff.2 hg, ih⟩

lemma nested_split (depth : Nat) (t : Text) : Nested depth (split depth t).1 := by
  fun_induction split depth t with
  | case1 | case2 | case4 => exact nested_nil _
  | case3 depth r name rest hr hg ih =>
    rw [hr] at ih
    exact (nested_open_iff depth name).2 ih
  | case5 r outer name rest hr hg _ ih =>
    rw [hr] at ih
    exact (nested_close_iff (outer + 1) name).2 ⟨outer, rfl, ih⟩
  | case6 depth c r hg ho he name rest hr ih =>
    rw [hr] at ih
    exact (nested_cons_of_ne ho he depth name).2 ih

lemma written_of_read? {t name rest : Text} (h : read? t = some (name, rest)) : Written name := by
  obtain ⟨happ, hne⟩ := append_of_read? h
  have hs : starts t = true := by
    rw [← read?_isSome, h]
    rfl
  have hname : (split 0 t).1 = name := by
    simp only [read?, hs, if_true, Option.some.injEq] at h
    exact congrArg Prod.fst h
  refine ⟨?_, hname ▸ gapless_split 0 t, hname ▸ nested_split 0 t⟩
  obtain ⟨c, r, rfl⟩ := List.exists_cons_of_ne_nil hne
  rw [← happ] at hs
  exact hs

end Identifier

namespace Key

lemma written_of_read? {table : KeyTable} {t name rest : Text} (ht : Text.Trimmed t)
    (h : read? table t = some (name, rest)) : Written table name := by
  unfold read? at h
  split at h
  · next k hk =>
    cases h
    obtain ⟨r, rfl⟩ := KeyTable.isPrefix_of_match? hk
    have hkey : Text.Trimmed k.text := (Text.trimmed_append_iff k.text_ne_nil r).1 ht
    exact Or.inl ⟨⟨k, List.mem_of_find?_eq_some hk, rfl⟩,
      (Text.trimmed_append_iff k.name_ne_nil _).1 hkey⟩
  · unfold readGeneric? at h
    split at h
    · next c name' rest' hc _ =>
      cases h
      refine Or.inr ⟨List.cons_ne_nil c name', ?_⟩
      rw [← hc]
      exact fun e he => List.mem_takeWhile_imp he
    · cases h

end Key

namespace Location

lemma isDigit_of_readNumber? {t digits rest : Text} (h : readNumber? t = some (digits, rest)) :
    ∀ c ∈ digits, c.isDigit = true := by
  unfold readNumber? at h
  split at h
  · split at h
    · cases h
    · cases h
      exact fun c hc => List.mem_takeWhile_imp hc
  · cases h

lemma written_of_read? {t rest : Text} {l : Location} (ht : Text.Trimmed t)
    (h : read? t = some (l, rest)) : l.Written := by
  have happ := text_append_of_read? h
  simp only [read?, Option.bind_eq_bind, Option.bind_eq_some_iff, Prod.exists] at h
  obtain ⟨line, r, hline, column, rest', hcolumn, he⟩ := h
  cases he
  exact ⟨fun c hc => List.mem_takeWhile_imp hc, Text.trimmed_takeWhile ht isFileChar,
    (append_of_readNumber? hline).2, isDigit_of_readNumber? hline,
    (append_of_readNumber? hcolumn).2, isDigit_of_readNumber? hcolumn⟩

end Location

namespace Declaration

lemma written_of_read? {t rest : Text} {d : Declaration} (ht : Text.Trimmed t)
    (h : read? t = some (d, rest)) : d.Written := by
  simp only [read?, Option.bind_eq_bind, Option.bind_eq_some_iff, Prod.exists] at h
  obtain ⟨name, r, hname, place, rest', hplace, he⟩ := h
  cases he
  obtain ⟨c, tail, rfl, hc, htail, rfl⟩ := readName?_eq_some_iff.1 hname
  refine ⟨List.cons_ne_nil c tail, ?_, htail, Text.gapOnly_gap r,
    Location.written_of_read? (Text.trimmed_skipGap r) hplace⟩
  intro e he
  obtain rfl : c = e := Option.some.inj he
  exact ⟨hc, (Text.trimmed_cons c _).1 ht⟩

end Declaration

namespace Token

variable {keys : KeyTable} {t rest : Text} {asked : Kind} {token : Token}

/-- What any of several kinds would do for is read just as if its own kind had been asked for. -/
lemma read?_kind (h : read? keys t asked = some (token, rest)) :
    read? keys t token.kind = some (token, rest) ∧
      (token.kind = asked ∨ asked = .identifierOrString ∧ token.kind ∈ alternatives) := by
  by_cases hs : asked = .identifierOrString
  · subst hs
    rw [read?_identifierOrString] at h
    obtain ⟨kind, hk, hr⟩ := List.exists_of_findSome?_eq_some h
    have hne : kind ≠ .identifierOrString := by
      rintro rfl
      exact absurd hk (by decide)
    have he := (of_read? hr).2.2 hne
    rw [he]
    exact ⟨hr, Or.inr ⟨rfl, hk⟩⟩
  · have he := (of_read? h).2.2 hs
    rw [he]
    exact ⟨h, Or.inl rfl⟩

/-- What is read behind a gap can be written. -/
theorem written_of_read? (ht : Text.Trimmed t) (h : read? keys t asked = some (token, rest)) :
    token.Written keys := by
  have hk := (read?_kind h).1
  cases token with
  | openParen => trivial
  | closeParen => trivial
  | identifier name =>
    obtain ⟨_, hr, he⟩ := exists_of_readAs? hk
    cases he
    exact Identifier.written_of_read? hr
  | doubleQuoted content =>
    obtain ⟨_, hr, he⟩ := exists_of_readAs? hk
    cases he
    exact Delimiters.written_of_read? hr
  | singleQuoted content =>
    obtain ⟨_, hr, he⟩ := exists_of_readAs? hk
    cases he
    exact Delimiters.written_of_read? hr
  | bracketed content =>
    obtain ⟨_, hr, he⟩ := exists_of_readAs? hk
    cases he
    exact Delimiters.written_of_read? hr
  | key name =>
    obtain ⟨_, hr, he⟩ := exists_of_readAs? hk
    cases he
    exact Key.written_of_read? ht hr
  | location place =>
    obtain ⟨_, hr, he⟩ := exists_of_readAs? hk
    cases he
    exact Location.written_of_read? ht hr
  | declaration declared =>
    obtain ⟨_, hr, he⟩ := exists_of_readAs? hk
    cases he
    exact Declaration.written_of_read? ht hr

/-- A token that is read ends before what it leaves. -/
theorem endsBefore_of_read? (plain : keys.Plain) (ht : Text.Trimmed t)
    (h : read? keys t asked = some (token, rest)) : token.EndsBefore rest := by
  have hw := written_of_read? ht h
  have hk := (read?_kind h).1
  rw [← (of_read? h).1, read?_text_append plain hw] at hk
  have he : token.extend (token.overrun rest) = token := congrArg Prod.fst (Option.some.inj hk)
  have hp := payload_extend_overrun token rest
  rw [he] at hp
  exact (overrun_eq_nil_iff hw rest).1 (List.append_right_eq_self.1 hp.symm)

/-- Where a name begins, only a string in brackets would be read before an identifier. -/
lemma read?_identifierOrString_of_starts (hs : Identifier.starts t = true)
    (hb : Delimiters.brackets.starts t = false) :
    read? keys t .identifierOrString = read? keys t .identifier := by
  have hbrackets : Delimiters.brackets.read? t = none := by
    rw [← Option.not_isSome_iff_eq_none, Delimiters.read?_isSome, hb]
    exact Bool.false_ne_true
  cases t with
  | nil => cases hs
  | cons c r =>
    simp only [Identifier.starts, isNameChar, Bool.not_eq_true', Bool.or_eq_false_iff,
      beq_eq_false_iff_ne] at hs
    obtain ⟨⟨⟨⟨-, ho⟩, -⟩, hd⟩, hq⟩ := hs
    have hopen : readChar? '(' openParen (c :: r) = none := by simp [readChar?, ho]
    have hdouble : Delimiters.doubleQuotes.read? (c :: r) = none := Delimiters.read?_cons_of_ne hd r
    have hsingle : Delimiters.singleQuotes.read? (c :: r) = none := Delimiters.read?_cons_of_ne hq r
    simp [read?, hopen, hdouble, hsingle, hbrackets, readAs?]

/-- An identifier is read for any identifier or string only where no string in brackets begins. -/
lemma starts_brackets_of_identifier {name : Text}
    (h : read? keys t .identifierOrString = some (identifier name, rest)) :
    Delimiters.brackets.starts t = false := by
  rw [← Delimiters.read?_isSome, ← readAs?_isSome bracketed]
  simp only [read?, Option.orElse_eq_some] at h
  rcases h with h | ⟨-, h | ⟨-, h | ⟨-, h | ⟨hnone, -⟩⟩⟩⟩
  · cases (eq_of_readChar? h).1
  · obtain ⟨_, -, he⟩ := exists_of_readAs? h
    cases he
  · obtain ⟨_, -, he⟩ := exists_of_readAs? h
    cases he
  · obtain ⟨_, -, he⟩ := exists_of_readAs? h
    cases he
  · rw [hnone]
    rfl

/-- The bracket that an identifier may begin with opens no string in front of other texts, if it did
not before: for that, a closing bracket has to come from somewhere. -/
lemma starts_brackets_append {name others : Text} (hname : name ≠ [])
    (ends : (identifier name).EndsBefore rest) (unclosed : ']' ∈ others → ']' ∈ rest)
    (hrest : Delimiters.brackets.starts (name ++ rest) = false) :
    Delimiters.brackets.starts (name ++ others) = false := by
  have hhead : ∀ c ∈ rest.head?, c ≠ ']' := by
    intro c hc
    rcases ends c hc with hg | ⟨rfl, -⟩
    · rintro rfl
      cases hg
    · decide
  rw [Bool.eq_false_iff] at hrest ⊢
  exact fun hothers => hrest (Delimiters.starts_append_of_mem hname hhead unclosed hothers)

/-- A written token is read, and nothing more, in front of any text that it ends before. -/
lemma read?_text_append_of_endsBefore (plain : keys.Plain) (hw : token.Written keys)
    (ends : token.EndsBefore rest) :
    read? keys (token.text ++ rest) token.kind = some (token, rest) := by
  rw [read?_text_append plain hw, (overrun_eq_nil_iff hw rest).2 ends, extend_nil]
  rfl

/-- What was read is read again in front of any text that it ends before and that brings no closing
bracket with it which was not there. -/
theorem read?_again (plain : keys.Plain) (ht : Text.Trimmed t)
    (h : read? keys t asked = some (token, rest)) {others : Text} (ends : token.EndsBefore others)
    (unclosed : ']' ∈ others → ']' ∈ rest) :
    read? keys (token.text ++ others) asked = some (token, others) := by
  have hw := written_of_read? ht h
  have happ := (of_read? h).1
  have hkind := read?_text_append_of_endsBefore plain hw ends
  rcases (read?_kind h).2 with rfl | ⟨rfl, hmem⟩
  · exact hkind
  · cases token with
    | openParen => rfl
    | identifier name =>
      have hname : name ≠ [] := (of_read? h).2.1
      have hs : Identifier.starts (name ++ others) = true := by
        obtain ⟨c, r, rfl⟩ := List.exists_cons_of_ne_nil hname
        change Identifier.starts (c :: r) = true
        exact Identifier.Written.starts hw
      have hb : Delimiters.brackets.starts (name ++ others) = false := by
        apply starts_brackets_append hname (endsBefore_of_read? plain ht h) unclosed
        rw [show name ++ rest = t from happ]
        exact starts_brackets_of_identifier h
      exact (read?_identifierOrString_of_starts hs hb).trans hkind
    | doubleQuoted content | singleQuoted content | bracketed content =>
      -- The opening delimiter rules out all that is tried before.
      simp only [kind] at hkind
      simp only [read?_identifierOrString, alternatives, List.findSome?_cons, hkind]
      rfl
    | closeParen => exact absurd hmem (by decide)
    | key name => exact absurd hmem (by simp [kind, alternatives])
    | location place => exact absurd hmem (by simp [kind, alternatives])
    | declaration declared => exact absurd hmem (by simp [kind, alternatives])

end Token
end TreeDump
