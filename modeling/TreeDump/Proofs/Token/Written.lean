import TreeDump.Proofs.Token.Nesting
import TreeDump.Token.Read

/-! Tokens that can be written, and what reading makes of a written token in front of any text. Only
an identifier and the column of a location go on into the text that follows them. -/
namespace TreeDump

/-- A content that its closing delimiter does not cut short. -/
def Delimiters.Written (d : Delimiters) (content : Text) : Prop :=
  content ≠ [] ∧ d.closing ∉ content

instance (d : Delimiters) (content : Text) : Decidable (d.Written content) :=
  inferInstanceAs (Decidable (_ ∧ _))

lemma Delimiters.read?_wrap_append {d : Delimiters} {content : Text} (h : d.Written content)
    (rest : Text) : d.read? (d.wrap content ++ rest) = some (content, rest) := by
  obtain ⟨hne, hc⟩ := h
  have hp := Text.bne_of_not_mem hc
  obtain ⟨c, r, rfl⟩ := List.exists_cons_of_ne_nil hne
  simp only [wrap, List.cons_append, List.append_assoc, read?, if_true]
  rw [← List.cons_append, List.takeWhile_append_of_pos hp, List.dropWhile_append_of_pos hp]
  simp

namespace Identifier

/-- A name that begins as a name does, has no gap, and closes only groups of its own. -/
structure Written (name : Text) : Prop where
  starts : starts name = true
  gapless : ∀ c ∈ name, Text.isGap c = false
  nested : Nested 0 name

instance (name : Text) : Decidable (Written name) :=
  decidable_of_iff (starts name = true ∧ (∀ c ∈ name, Text.isGap c = false) ∧ Nested 0 name)
    ⟨fun ⟨hs, hg, hn⟩ => ⟨hs, hg, hn⟩, fun ⟨hs, hg, hn⟩ => ⟨hs, hg, hn⟩⟩

/-- A written identifier is read up to its end at least, and from there as the scan goes on. -/
lemma read?_append {name : Text} (h : Written name) (rest : Text) :
    read? (name ++ rest) =
      some (name ++ (split (depthAfter 0 name) rest).1, (split (depthAfter 0 name) rest).2) := by
  have hs : starts (name ++ rest) = true := by
    cases name with
    | nil => exact absurd h.starts (by simp [starts])
    | cons c r => exact h.starts
  simp only [read?, hs, if_true, split_append_of_nested h.gapless h.nested]

lemma Written.trimmed {name : Text} (h : Written name) : Text.Trimmed name :=
  fun c hc => h.gapless c (List.mem_of_mem_head? hc)

end Identifier

/-- A table where no key has an equals sign before its end. -/
def KeyTable.Plain (table : KeyTable) : Prop := ∀ k ∈ table.keys, '=' ∉ k.name

instance (table : KeyTable) : Decidable table.Plain :=
  inferInstanceAs (Decidable (∀ k ∈ table.keys, '=' ∉ k.name))

namespace Key

/-- A name that a key of the table has, or that needs no table. -/
def Written (table : KeyTable) (name : Text) : Prop :=
  ((∃ k ∈ table.keys, k.name = name) ∧ Text.Trimmed name) ∨ (name ≠ [] ∧ ∀ c ∈ name, isChar c = true)

instance (table : KeyTable) (name : Text) : Decidable (Written table name) :=
  inferInstanceAs (Decidable (_ ∨ _))

lemma isChar_equals : isChar '=' = false := by decide

lemma isGap_eq_false_of_isChar {c : Char} (h : isChar c = true) : Text.isGap c = false := by
  simp only [isChar, Bool.and_eq_true] at h
  exact Identifier.isGap_eq_false_of_isNameChar h.1

lemma equals_not_mem {name : Text} (h : ∀ c ∈ name, isChar c = true) : '=' ∉ name := by
  intro hm
  have hc := h '=' hm
  rw [isChar_equals] at hc
  cases hc

lemma Written.trimmed {table : KeyTable} {name : Text} (h : Written table name) : Text.Trimmed name := by
  rcases h with ⟨_, ht⟩ | ⟨_, hc⟩
  · exact ht
  · exact fun c hm => isGap_eq_false_of_isChar (hc c (List.mem_of_mem_head? hm))

lemma Written.ne_nil {table : KeyTable} {name : Text} (h : Written table name) : name ≠ [] := by
  rcases h with ⟨⟨k, _, rfl⟩, _⟩ | ⟨hne, _⟩
  · exact k.name_ne_nil
  · exact hne

lemma Written.equals_not_mem {table : KeyTable} (plain : table.Plain) {name : Text}
    (h : Written table name) : '=' ∉ name := by
  rcases h with ⟨⟨k, hk, rfl⟩, _⟩ | ⟨_, hc⟩
  · exact plain k hk
  · exact Key.equals_not_mem hc

/-- Before its first equals sign a text has one name only. -/
lemma eq_of_text_append_eq {a b s t : Text} (ha : '=' ∉ a) (hb : '=' ∉ b)
    (h : text a ++ s = text b ++ t) : a = b := by
  have hcut : a ++ '=' :: s = b ++ '=' :: t := by simpa [text] using h
  rw [← Text.takeWhile_bne_append ha s, hcut, Text.takeWhile_bne_append hb]

lemma match?_text_append {table : KeyTable} (plain : table.Plain) {name : Text} (hn : '=' ∉ name)
    {rest : Text} {k : ComposedKey} (h : table.match? (text name ++ rest) = some k) :
    k.name = name := by
  obtain ⟨s, hs⟩ := KeyTable.isPrefix_of_match? h
  have hk : k ∈ table.keys := List.mem_of_find?_eq_some h
  exact eq_of_text_append_eq (plain k hk) hn hs

lemma readGeneric?_text_append {name : Text} (hne : name ≠ []) (hc : ∀ c ∈ name, isChar c = true)
    (rest : Text) : readGeneric? (text name ++ rest) = some (name, rest) := by
  obtain ⟨c, r, rfl⟩ := List.exists_cons_of_ne_nil hne
  have ht : text (c :: r) ++ rest = (c :: r) ++ '=' :: rest := by simp [text]
  unfold readGeneric?
  rw [ht, List.takeWhile_append_of_pos hc, List.dropWhile_append_of_pos hc]
  simp [isChar_equals]

/-- A written key is read back: no key of a plain table begins with another one. -/
lemma read?_text_append {table : KeyTable} (plain : table.Plain) {name : Text}
    (h : Written table name) (rest : Text) :
    read? table (text name ++ rest) = some (name, rest) := by
  have hn := h.equals_not_mem plain
  unfold read?
  cases hm : table.match? (text name ++ rest) with
  | some k =>
    have hk := match?_text_append plain hn hm
    have ht : k.text = text name := by rw [← hk]; rfl
    simp [hk, ht]
  | none =>
    rcases h with ⟨⟨k, hk, rfl⟩, _⟩ | ⟨hne, hc⟩
    · have hp : table.match? (text k.name ++ rest) ≠ none := by
        rw [KeyTable.match?, Ne, List.find?_eq_none]
        intro hnone
        exact hnone k hk (List.isPrefixOf_iff_prefix.2 ⟨rest, rfl⟩)
      exact absurd hm hp
    · exact readGeneric?_text_append hne hc rest

end Key

namespace Location

/-- A location whose file part holds no delimiter and follows no gap of its own, and whose numbers
have digits. -/
structure Written (l : Location) : Prop where
  file : ∀ c ∈ l.file, isFileChar c = true
  trimmed : Text.Trimmed l.file
  line_ne_nil : l.line ≠ []
  line : ∀ c ∈ l.line, c.isDigit = true
  column_ne_nil : l.column ≠ []
  column : ∀ c ∈ l.column, c.isDigit = true

instance (l : Location) : Decidable l.Written :=
  decidable_of_iff ((∀ c ∈ l.file, isFileChar c = true) ∧ Text.Trimmed l.file ∧
      (l.line ≠ [] ∧ ∀ c ∈ l.line, c.isDigit = true) ∧
      l.column ≠ [] ∧ ∀ c ∈ l.column, c.isDigit = true)
    ⟨fun ⟨hf, ht, ⟨hl, hd⟩, hc, he⟩ => ⟨hf, ht, hl, hd, hc, he⟩,
      fun ⟨hf, ht, hl, hd, hc, he⟩ => ⟨hf, ht, ⟨hl, hd⟩, hc, he⟩⟩

def extend (digits : Text) (l : Location) : Location := { l with column := l.column ++ digits }

@[simp] lemma extend_nil (l : Location) : l.extend [] = l := by simp [extend]

@[simp] lemma text_extend (digits : Text) (l : Location) :
    (l.extend digits).text = l.text ++ digits := by simp [extend, text]

lemma readNumber?_append {digits : Text} (hne : digits ≠ []) (hd : ∀ c ∈ digits, c.isDigit = true)
    (rest : Text) :
    readNumber? (':' :: (digits ++ rest)) =
      some (digits ++ rest.takeWhile Char.isDigit, rest.dropWhile Char.isDigit) := by
  obtain ⟨c, r, rfl⟩ := List.exists_cons_of_ne_nil hne
  simp only [readNumber?, List.takeWhile_append_of_pos hd, List.dropWhile_append_of_pos hd]
  rfl

/-- A written location is read with the digits that follow it in its column. -/
lemma read?_text_append {l : Location} (h : l.Written) (rest : Text) :
    read? (l.text ++ rest) =
      some (l.extend (rest.takeWhile Char.isDigit), rest.dropWhile Char.isDigit) := by
  have ht : l.text ++ rest = l.file ++ ':' :: (l.line ++ ':' :: (l.column ++ rest)) := by
    simp [text]
  have hfile : isFileChar ':' = false := by decide
  have hline := readNumber?_append h.line_ne_nil h.line (':' :: (l.column ++ rest))
  have hcolumn := readNumber?_append h.column_ne_nil h.column rest
  simp only [List.takeWhile_cons, List.dropWhile_cons, show Char.isDigit ':' = false from rfl,
    Bool.false_eq_true, if_false, List.append_nil] at hline
  unfold read?
  rw [ht, List.takeWhile_append_of_pos h.file, List.dropWhile_append_of_pos h.file]
  simp [hfile, hline, hcolumn, extend]

lemma Written.trimmed_text {l : Location} (h : l.Written) : Text.Trimmed l.text := by
  have ht := h.trimmed
  unfold text
  cases hf : l.file with
  | nil =>
    rw [List.nil_append, Text.trimmed_cons]
    rfl
  | cons c r =>
    rw [hf] at ht
    exact (Text.trimmed_append_iff (List.cons_ne_nil c r) _).2 ht

end Location

namespace Declaration

/-- A declaration whose name ends at its at sign, with a gap and a written location after that. -/
structure Written (d : Declaration) : Prop where
  name_ne_nil : d.name ≠ []
  head : ∀ c ∈ d.name.head?, c ≠ '(' ∧ Text.isGap c = false
  tail : ∀ c ∈ d.name.tail, isTailChar c = true
  gap : Text.GapOnly d.gap
  place : d.place.Written

instance (d : Declaration) : Decidable d.Written :=
  decidable_of_iff ((d.name ≠ [] ∧ (∀ c ∈ d.name.head?, c ≠ '(' ∧ Text.isGap c = false) ∧
      ∀ c ∈ d.name.tail, isTailChar c = true) ∧ Text.GapOnly d.gap ∧ d.place.Written)
    ⟨fun ⟨⟨hn, hh, ht⟩, hg, hp⟩ => ⟨hn, hh, ht, hg, hp⟩,
      fun ⟨hn, hh, ht, hg, hp⟩ => ⟨⟨hn, hh, ht⟩, hg, hp⟩⟩

def extend (digits : Text) (d : Declaration) : Declaration := { d with place := d.place.extend digits }

@[simp] lemma extend_nil (d : Declaration) : d.extend [] = d := by simp [extend]

@[simp] lemma canonical_extend (digits : Text) (d : Declaration) :
    (d.extend digits).canonical = d.canonical ++ digits := by simp [extend, canonical]

lemma readName?_append {c : Char} {tail : Text} (hc : c ≠ '(')
    (ht : ∀ e ∈ tail, isTailChar e = true) (rest : Text) :
    readName? (c :: (tail ++ '@' :: rest)) = some (c :: tail, rest) := by
  have hat : isTailChar '@' = false := by decide
  simp only [readName?, hc, if_false, List.takeWhile_append_of_pos ht,
    List.dropWhile_append_of_pos ht]
  simp [hat]

/-- A name is read exactly where one with an at sign behind it begins the text. -/
lemma readName?_eq_some_iff {t name rest : Text} :
    readName? t = some (name, rest) ↔
      ∃ c tail, name = c :: tail ∧ c ≠ '(' ∧ (∀ e ∈ tail, isTailChar e = true) ∧
        t = c :: (tail ++ '@' :: rest) := by
  constructor
  · intro h
    have happ := (append_of_readName? h).1
    cases t with
    | nil => cases h
    | cons c r =>
      simp only [readName?] at h
      split at h
      · cases h
      · next hc =>
        split at h
        · cases h
          have htail := List.all_eq_true.1 (List.all_takeWhile (p := isTailChar) (l := r))
          exact ⟨c, r.takeWhile isTailChar, rfl, hc, htail, happ.symm⟩
        · cases h
  · rintro ⟨c, tail, rfl, hc, ht, rfl⟩
    exact readName?_append hc ht rest

/-- A written declaration is read, gap and all, with the digits that follow it in its column. -/
lemma read?_text_append {d : Declaration} (h : d.Written) (rest : Text) :
    read? (d.text ++ rest) =
      some (d.extend (rest.takeWhile Char.isDigit), rest.dropWhile Char.isDigit) := by
  obtain ⟨c, tail, hname⟩ := List.exists_cons_of_ne_nil h.name_ne_nil
  have hc : c ≠ '(' := (h.head c (by simp [hname])).1
  have ht : ∀ e ∈ tail, isTailChar e = true := by simpa [hname] using h.tail
  have hplace : Text.Trimmed (d.place.text ++ rest) :=
    (Text.trimmed_append_iff (by simp [Location.text]) rest).2 h.place.trimmed_text
  have hd : d.text ++ rest = c :: (tail ++ '@' :: (d.gap ++ (d.place.text ++ rest))) := by
    simp [text, hname]
  unfold read?
  rw [hd, readName?_append hc ht]
  simp [Text.skipGap_append_trimmed h.gap hplace, Text.gap_append_trimmed h.gap hplace,
    Location.read?_text_append h.place, extend, hname]

lemma Written.trimmed {d : Declaration} (h : d.Written) : Text.Trimmed d.name :=
  fun c hc => (h.head c hc).2

end Declaration
end TreeDump
