import Mathlib.Data.List.Forall2
import TreeDump.Json.Expect
import TreeDump.Json.Scan
import TreeDump.Proofs.Json.Grammar

/-! Strings of JSON, and lists of them. A character can be spelled in several ways, and a scan reads
each of them back. What is written is one of them. -/
namespace TreeDump
namespace Json

/-- The ways to spell a character inside a string: as itself, by a letter, by its number, or by the
two numbers of a pair. -/
inductive Spells : Char → Text → Prop
  | plain {c : Char} (quote : c ≠ '"') (backslash : c ≠ '\\') (control : isControl c = false) :
    Spells c [c]
  | letter {c e : Char} (h : escaped? e = some c) : Spells c ['\\', e]
  | number {c : Char} {digits : Text} (four : digits.length = 4)
    (value : hexValue? digits = some c.toNat) : Spells c ('\\' :: 'u' :: digits)
  | pair {c : Char} {first second : Text} {leading trailing : Nat} (four : first.length = 4)
    (four' : second.length = 4) (value : hexValue? first = some leading)
    (value' : hexValue? second = some trailing) (leads : isLeading leading = true)
    (trails : isTrailing trailing = true) (sum : pairValue leading trailing = c.toNat) :
    Spells c ('\\' :: 'u' :: (first ++ '\\' :: 'u' :: second))

/-- A text and what stands for it between the quotes of a string. -/
inductive Spelling : Text → Text → Prop
  | nil : Spelling [] []
  | cons {c : Char} {s part spelled : Text} (head : Spells c part) (tail : Spelling s spelled) :
    Spelling (c :: s) (part ++ spelled)

/-- The numbers of a pair are those that no character has. -/
lemma isLeading_toNat (c : Char) : isLeading c.toNat = false ∧ isTrailing c.toNat = false := by
  have hv : c.toNat < 0xD800 ∨ 0xDFFF < c.toNat ∧ c.toNat < 0x110000 := c.valid
  simp only [isLeading, isTrailing, Bool.and_eq_false_iff, decide_eq_false_iff_not]
  omega

lemma scanString_append (part rest : Text) :
    scanString part.length (part ++ rest) = scanString 0 rest := by
  induction part with
  | nil => rfl
  | cons c r ih =>
    rw [List.length_cons, List.cons_append, scanString]
    exact ih

lemma scanHex_append {digits : Text} {value : Nat} (four : digits.length = 4)
    (h : hexValue? digits = some value) (rest : Text) : scanHex (digits ++ rest) = .ok value := by
  have hsize : ¬ Text.utf8Size (digits ++ rest) < 4 := by
    have hlength := Text.length_le_utf8Size digits
    rw [Text.utf8Size_append]
    omega
  rw [scanHex, if_neg hsize, ← four, List.take_left, h]

lemma scanUnicode_number {c : Char} {digits : Text} (four : digits.length = 4)
    (value : hexValue? digits = some c.toNat) (rest : Text) :
    scanUnicode (digits ++ rest) = .ok (c, 4) := by
  have hsingle := isLeading_toNat c
  simp only [scanUnicode, scanHex_append four value, bind, Except.bind, hsingle.1, hsingle.2,
    Bool.false_eq_true, if_false, Char.ofNat_toNat]
  rfl

lemma scanTrailing_append {second : Text} {trailing : Nat} (four : second.length = 4)
    (value : hexValue? second = some trailing) (trails : isTrailing trailing = true) (rest : Text) :
    scanTrailing ('\\' :: 'u' :: (second ++ rest)) = .ok trailing := by
  simp only [scanTrailing, scanHex_append four value, bind, Except.bind, trails, if_true]
  rfl

lemma scanUnicode_pair {c : Char} {first second : Text} {leading trailing : Nat}
    (four : first.length = 4) (four' : second.length = 4) (value : hexValue? first = some leading)
    (value' : hexValue? second = some trailing) (leads : isLeading leading = true)
    (trails : isTrailing trailing = true) (sum : pairValue leading trailing = c.toNat)
    (rest : Text) :
    scanUnicode (first ++ ('\\' :: 'u' :: (second ++ rest))) = .ok (c, 10) := by
  have hother : isTrailing leading = false := by
    simp only [isLeading, isTrailing, Bool.and_eq_true, decide_eq_true_eq, Bool.and_eq_false_iff,
      decide_eq_false_iff_not] at leads ⊢
    omega
  have hdrop : (first ++ ('\\' :: 'u' :: (second ++ rest))).drop 4 =
      '\\' :: 'u' :: (second ++ rest) := by
    rw [← four, List.drop_left]
  have hc : Char.ofNat (pairValue leading trailing) = c := by rw [sum, Char.ofNat_toNat]
  simp only [scanUnicode, scanHex_append four value, bind, Except.bind, hother, leads,
    Bool.false_eq_true, if_false, if_true, hdrop, scanTrailing_append four' value' trails]
  rw [← hc]
  rfl

lemma scanEscape_letter {c e : Char} (h : escaped? e = some c) (rest : Text) :
    scanEscape (e :: rest) = .ok (c, 1) := by
  have hu : e ≠ 'u' := by
    rintro rfl
    cases h
  unfold scanEscape
  split
  · cases ‹e :: rest = []›
  · next he => exact absurd (List.cons.inj he).1 hu
  · next he =>
    obtain ⟨rfl, rfl⟩ := List.cons.inj he
    rw [h]

/-- A scan of a string that begins with an escape goes on behind it. -/
lemma scanString_escape {c : Char} {rest : Text} (part : Text)
    (h : scanEscape (part ++ rest) = .ok (c, part.length)) :
    scanString 0 ('\\' :: (part ++ rest)) =
      (scanString 0 rest).map fun (s, last) => (c :: s, last) := by
  simp only [scanString, h, scanString_append, show ('\\' : Char) ≠ '"' by decide, if_false, if_true]
  cases scanString 0 rest <;> rfl

/-- Of a spelled character a scan makes the character. -/
lemma scanString_spells {c : Char} {part : Text} (h : Spells c part) (rest : Text) :
    scanString 0 (part ++ rest) = (scanString 0 rest).map fun (s, last) => (c :: s, last) := by
  cases h with
  | plain quote backslash control =>
    simp only [List.singleton_append, scanString, if_neg quote, if_neg backslash, control,
      Bool.false_eq_true, if_false]
    cases scanString 0 rest <;> rfl
  | letter h => exact scanString_escape [_] (scanEscape_letter h rest)
  | @number digits four value =>
    apply scanString_escape ('u' :: digits)
    simp only [List.cons_append, scanEscape, scanUnicode_number four value, bind, Except.bind,
      List.length_cons, four]
    rfl
  | @pair first second _ _ four four' value value' leads trails sum =>
    apply scanString_escape ('u' :: (first ++ '\\' :: 'u' :: second))
    simp only [List.cons_append, List.append_assoc, scanEscape, bind, Except.bind,
      scanUnicode_pair four four' value value' leads trails sum, List.length_cons,
      List.length_append, four, four']
    rfl

/-- A scan reads a string back from any of its spellings. -/
theorem scanString_of_spelling {s spelled : Text} (h : Spelling s spelled) (rest : Text) :
    scanString 0 (spelled ++ '"' :: rest) = .ok (s, rest) := by
  induction h with
  | nil => simp [scanString]
  | cons head tail ih =>
    rw [List.append_assoc, scanString_spells head, ih]
    rfl

lemma escaped?_of_shortEscape? {c letter : Char} (h : shortEscape? c = some letter) :
    escaped? letter = some c := by
  unfold shortEscape? at h
  split at h <;> cases h <;> rfl

/-- The number of a control character in four digits. -/
lemma hexValue?_fourDigits {n : Nat} (h : n < 32) :
    (fourDigits n).length = 4 ∧ hexValue? (fourDigits n) = some n := by
  revert n
  decide

/-- A character is written in one of its spellings. -/
lemma spells_writeChar (c : Char) : Spells c (writeChar c) := by
  unfold writeChar
  split
  · next letter h => exact .letter (escaped?_of_shortEscape? h)
  · next h =>
    split
    · next hc =>
      have hn : c.toNat < 32 := hc
      exact .number (hexValue?_fourDigits hn).1 (hexValue?_fourDigits hn).2
    · next hc =>
      refine .plain ?_ ?_ (decide_eq_false hc)
      · rintro rfl
        cases h
      · rintro rfl
        cases h

lemma spelling_flatMap_writeChar (s : Text) : Spelling s (s.flatMap writeChar) := by
  induction s with
  | nil => exact .nil
  | cons c r ih => exact .cons (spells_writeChar c) ih

/-- A string, with its quotes, in any of its spellings. -/
inductive SpellsString : Text → Text → Prop
  | mk {s spelled : Text} (h : Spelling s spelled) : SpellsString s ('"' :: (spelled ++ ['"']))

lemma spellsString_writeString (s : Text) : SpellsString s (writeString s) :=
  .mk (spelling_flatMap_writeChar s)

lemma SpellsString.scanString_tail {s t : Text} (h : SpellsString s t) (rest : Text) :
    ∃ r, t ++ rest = '"' :: r ∧ scanString 0 r = .ok (s, rest) := by
  obtain ⟨h⟩ := h
  rename_i spelled
  exact ⟨spelled ++ '"' :: rest, by simp, scanString_of_spelling h rest⟩

variable {s t blanks : Text}

lemma scanElement_closing (first : Bool) (h : Blanks blanks) (rest : Text) :
    scanElement first (blanks ++ ']' :: rest) = .ok (none, rest) := by
  simp [scanElement, skipBlanks_append_cons h (show isBlank ']' = false by decide)]

lemma scanElement_first (hs : SpellsString s t) (h : Blanks blanks) (rest : Text) :
    scanElement true (blanks ++ (t ++ rest)) = .ok (some s, rest) := by
  obtain ⟨r, hr, hscan⟩ := hs.scanString_tail rest
  simp [scanElement, hr, skipBlanks_append_cons h (show isBlank '"' = false by decide), hscan,
    Except.map]

lemma scanElement_next (hs : SpellsString s t) (h : Blanks blanks) {between : Text}
    (h' : Blanks between) (rest : Text) :
    scanElement false (blanks ++ ',' :: (between ++ (t ++ rest))) = .ok (some s, rest) := by
  obtain ⟨r, hr, hscan⟩ := hs.scanString_tail rest
  simp [scanElement, hr, skipBlanks_append_cons h (show isBlank ',' = false by decide),
    skipBlanks_append_cons h' (show isBlank '"' = false by decide), hscan, Except.map]

lemma scanStrings_next {first : Bool} {rest : Text} (h : scanElement first t = .ok (some s, rest)) :
    scanStrings first t = (scanStrings false rest).map fun (more, last) => (s :: more, last) := by
  rw [scanStrings]
  split
  · next he => cases h.symm.trans he
  · next he => cases h.symm.trans he
  · next he =>
    cases h.symm.trans he
    rfl

lemma scanStrings_closing (first : Bool) (h : Blanks blanks) (rest : Text) :
    scanStrings first (blanks ++ ']' :: rest) = .ok ([], rest) := by
  have hend := scanElement_closing first h rest
  rw [scanStrings]
  split
  · next he => cases hend.symm.trans he
  · next he =>
    cases hend.symm.trans he
    rfl
  · next he => cases hend.symm.trans he

/-- A list of strings, with blanks between its parts and each string in any of its spellings. -/
inductive SpellsStrings : List Text → Text → Prop
  | mk {strings : List Text} {blanks : Text} {items : List Padded} (h : Blanks blanks)
    (spelled : List.Forall₂ (fun s item => SpellsString s item.core) strings items) :
    SpellsStrings strings (Bracket.list.group blanks (items.map (Entry.mk [])))

lemma scanStrings_remainder {strings : List Text} {items : List Padded}
    (spelled : List.Forall₂ (fun s item => SpellsString s item.core) strings items)
    (h : Blanks blanks) (rest : Text) :
    scanStrings false (blanks ++ Bracket.list.remainder (items.map (Entry.mk [])) rest) =
      .ok (strings, rest) := by
  induction spelled generalizing blanks with
  | nil => exact scanStrings_closing false h rest
  | @cons s item strings items hs hothers ih =>
    rw [List.map_cons, Bracket.remainder_cons, Entry.text, List.nil_append, Padded.text_append,
      scanStrings_next (scanElement_next hs h item.blanks_before _), ih item.blanks_after]
    rfl

/-- A list of strings is read from any of its spellings, whatever follows it. -/
theorem scanStringList_of_spells {strings : List Text} (hs : SpellsStrings strings t)
    (h : Blanks blanks) (rest : Text) :
    scanStringList (blanks ++ (t ++ rest)) = .ok (strings, rest) := by
  obtain ⟨hblanks, spelled⟩ := hs
  have hopening : isBlank '[' = false := by decide
  cases spelled with
  | nil =>
    rw [List.map_nil, Bracket.group_nil_append, Bracket.opening]
    simp only [scanStringList, skipBlanks_append_cons h hopening]
    exact scanStrings_closing true hblanks rest
  | @cons s item strings items hs hothers =>
    rw [List.map_cons, Bracket.group_cons_append, Bracket.opening]
    simp only [scanStringList, skipBlanks_append_cons h hopening]
    rw [Entry.text, List.nil_append, Padded.text_append, ← List.append_assoc _ item.before,
      scanStrings_next (scanElement_first hs (hblanks.append item.blanks_before) _),
      scanStrings_remainder hothers item.blanks_after]
    rfl

lemma spellsStrings_writeStrings (strings : List Text) : SpellsStrings strings (writeStrings strings) := by
  have hwritten : writeStrings strings =
      Bracket.list.group [] ((strings.map fun s => Padded.bare (writeString s)).map (Entry.mk [])) := by
    simp [writeStrings, Bracket.group, Bracket.opening, Bracket.closing, Entry.text,
      Function.comp_def]
  rw [hwritten]
  refine .mk blanks_nil ?_
  rw [List.forall₂_map_right_iff, List.forall₂_same]
  exact fun s _ => spellsString_writeString s

end Json
end TreeDump
