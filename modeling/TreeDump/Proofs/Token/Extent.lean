import TreeDump.Proofs.Token.Reading

/-! How far a token reaches. What a scan takes off the front of a text is described here without
scanning: as the longest part of some form, or as the one place where the text can be cut. -/
namespace TreeDump

namespace Delimiters

variable {d : Delimiters} {t content rest : Text}

/-- A text that begins with an opening delimiter, cut at the first closing one behind it. -/
structure Encloses (d : Delimiters) (t content rest : Text) : Prop where
  text_eq : t = d.opening :: (content ++ d.closing :: rest)
  first : d.closing ∉ content

lemma encloses_wrap (h : d.closing ∉ content) (rest : Text) :
    d.Encloses (d.wrap content ++ rest) content rest where
  text_eq := by simp [wrap]
  first := h

/-- A text can be cut so in one way only. -/
lemma Encloses.eq {content' rest' : Text} (h : d.Encloses t content rest)
    (h' : d.Encloses t content' rest') : content = content' ∧ rest = rest' := by
  have htail : content ++ d.closing :: rest = content' ++ d.closing :: rest' :=
    (List.cons.inj (h.text_eq.symm.trans h'.text_eq)).2
  have hcontent : content = content' := by
    rw [← Text.takeWhile_bne_append h.first rest, htail, Text.takeWhile_bne_append h'.first]
  subst hcontent
  exact ⟨rfl, (List.cons.inj (List.append_cancel_left htail)).2⟩

/-- A delimited string is read exactly where something stands between an opening delimiter and the first
closing one. -/
theorem read?_eq_some_iff : d.read? t = some (content, rest) ↔ d.Encloses t content rest ∧ content ≠ [] := by
  constructor
  · intro h
    obtain ⟨hne, hfirst⟩ := written_of_read? h
    rw [← wrap_append_of_read? h]
    exact ⟨encloses_wrap hfirst rest, hne⟩
  · rintro ⟨⟨rfl, hfirst⟩, hne⟩
    have h := read?_wrap_append ⟨hne, hfirst⟩ rest
    simpa [wrap] using h

lemma starts_iff_encloses :
    d.starts t = true ↔ ∃ content rest, d.Encloses t content rest ∧ content ≠ [] := by
  rw [← read?_isSome, Option.isSome_iff_exists]
  simp only [Prod.exists, read?_eq_some_iff]

lemma read?_of_encloses_nil (h : d.Encloses t [] rest) : d.read? t = none := by
  rw [Option.eq_none_iff_forall_not_mem]
  rintro ⟨content, rest'⟩ hread
  obtain ⟨hcut, hne⟩ := read?_eq_some_iff.1 hread
  exact hne (hcut.eq h).1

end Delimiters

namespace Identifier

/-- The longest part at the start of a text that has no gap and closes no more than the `depth` groups
that are open before it and those that it opens itself. -/
structure Longest (depth : Nat) (name t : Text) : Prop where
  start : name <+: t
  gapless : ∀ c ∈ name, Text.isGap c = false
  nested : Nested depth name
  longest : ∀ other, other <+: t → (∀ c ∈ other, Text.isGap c = false) → Nested depth other →
    other.length ≤ name.length

/-- The longest run of name characters at the start of a text. An identifier begins where there is one. -/
def lead (t : Text) : Text := t.takeWhile isNameChar

/-- The scan of an identifier takes all that it can. -/
theorem longest_split (depth : Nat) (t : Text) : Longest depth (split depth t).1 t where
  start := ⟨(split depth t).2, split_append depth t⟩
  gapless := gapless_split depth t
  nested := nested_split depth t
  longest := by
    rintro other ⟨rest, rfl⟩ hg hn
    rw [split_append_of_nested hg hn, List.length_append]
    exact Nat.le_add_right _ _

lemma isNameChar_of_mem_lead {t : Text} {c : Char} (h : c ∈ lead t) : isNameChar c = true :=
  List.mem_takeWhile_imp h

lemma isNameChar_iff (c : Char) :
    isNameChar c = true ↔ Text.isBlank c = false ∧ c ≠ '(' ∧ c ≠ ')' ∧ c ≠ '"' ∧ c ≠ '\'' := by
  simp [isNameChar, and_assoc]

lemma lead_ne_nil_iff (t : Text) : lead t ≠ [] ↔ starts t = true := by
  cases t with
  | nil => simp [lead, starts]
  | cons c r => by_cases hc : isNameChar c = true <;> simp [lead, starts, hc]

/-- A scan that begins in no group comes to the end of the run of name characters, and there goes on as
it began. -/
lemma split_eq_lead_append (t : Text) :
    (split 0 t).1 = lead t ++ (split 0 (t.dropWhile isNameChar)).1 := by
  have hchars : ∀ c ∈ lead t, Text.isBlank c = false ∧ c ≠ '(' ∧ c ≠ ')' ∧ c ≠ '"' ∧ c ≠ '\'' :=
    fun c hc => (isNameChar_iff c).1 (isNameChar_of_mem_lead hc)
  have hopen : (lead t).count '(' = 0 := List.count_eq_zero.2 fun hm => (hchars _ hm).2.1 rfl
  have hclose : (lead t).count ')' = 0 := List.count_eq_zero.2 fun hm => (hchars _ hm).2.2.1 rfl
  have hgapless : ∀ c ∈ lead t, Text.isGap c = false :=
    fun c hc => isGap_eq_false_of_isNameChar (isNameChar_of_mem_lead hc)
  have hnested : Nested 0 (lead t) := by
    intro part hp
    have hle : part.count ')' ≤ (lead t).count ')' := hp.sublist.count_le ')'
    omega
  have hdepth : depthAfter 0 (lead t) = 0 := by
    simp only [depthAfter]
    omega
  have h := split_append_of_nested hgapless hnested (t.dropWhile isNameChar)
  rw [hdepth, lead, List.takeWhile_append_dropWhile] at h
  rw [h]
  rfl

lemma lead_isPrefix (t : Text) : lead t <+: (split 0 t).1 := by
  rw [split_eq_lead_append]
  exact List.prefix_append _ _

lemma head?_dropWhile_eq (t : Text) : (t.dropWhile isNameChar).head? = t[(lead t).length]? := by
  have h : (lead t ++ t.dropWhile isNameChar)[(lead t).length]? = (t.dropWhile isNameChar)[0]? := by
    rw [List.getElem?_append_right (Nat.le_refl _), Nat.sub_self]
  rw [List.head?_eq_getElem?, ← h, lead, List.takeWhile_append_dropWhile]

/-- A scan ends with the run of name characters exactly where a gap, a closing parenthesis or the end of
the text follows the run. -/
lemma split_eq_lead_iff (t : Text) :
    (split 0 t).1 = lead t ↔ ∀ c ∈ t[(lead t).length]?, c = ' ' ∨ c = '\n' ∨ c = ')' := by
  rw [split_eq_lead_append, List.append_right_eq_self, split_fst_eq_nil_iff, head?_dropWhile_eq]
  simp only [Text.isGap_iff, and_true, or_assoc]

/-- Quotes apart, a scan goes on behind the run of name characters only with a group or with a blank that
is no gap. -/
lemma of_mem_head?_drop_lead {t : Text} {c : Char}
    (h : c ∈ ((split 0 t).1.drop (lead t).length).head?) (quote : c ≠ '"' ∧ c ≠ '\'') :
    c = '(' ∨ (Text.isBlank c = true ∧ Text.isGap c = false) := by
  rw [split_eq_lead_append, List.drop_left] at h
  obtain ⟨name, hname⟩ := List.head?_eq_some_iff.1 h
  have happ := split_append 0 (t.dropWhile isNameChar)
  have hgap : Text.isGap c = false :=
    gapless_split 0 (t.dropWhile isNameChar) c (by rw [hname]; exact List.mem_cons_self)
  have hclose : c ≠ ')' := by
    rintro rfl
    have hnested := nested_split 0 (t.dropWhile isNameChar)
    rw [hname] at hnested
    obtain ⟨outer, hdepth, -⟩ := (nested_close_iff 0 name).1 hnested
    cases hdepth
  have hchar : isNameChar c = false := by
    have hhead := List.head?_dropWhile_not isNameChar t
    rw [← happ, hname] at hhead
    exact hhead
  cases hb : Text.isBlank c with
  | true => exact .inr ⟨rfl, hgap⟩
  | false =>
    by_cases ho : c = '('
    · exact .inl ho
    · have hname := (isNameChar_iff c).2 ⟨hb, ho, hclose, quote⟩
      rw [hchar] at hname
      cases hname

/-- A scan ends with the text, at a gap, or at a parenthesis that closes an outer group. -/
lemma of_mem_head?_split {depth : Nat} {t : Text} {c : Char} (h : c ∈ (split depth t).2.head?) :
    Text.isGap c = true ∨ c = ')' := by
  have hnested := split_append_of_nested (gapless_split depth t) (nested_split depth t) (split depth t).2
  rw [split_append] at hnested
  have hstop : (split (depthAfter depth (split depth t).1) (split depth t).2).1 = [] :=
    List.append_right_eq_self.1 (congrArg Prod.fst hnested).symm
  exact ((split_fst_eq_nil_iff _ _).1 hstop c h).imp_right And.left

/-- The groups of an identifier that ends at a closing parenthesis are all closed. -/
lemma count_eq_of_read? {t name rest : Text} (ht : Text.Trimmed t)
    (h : read? t = some (name, ')' :: rest)) : name.count '(' = name.count ')' := by
  have plain : KeyTable.empty.Plain := by simp [KeyTable.Plain, KeyTable.empty]
  have hread : Token.read? .empty t .identifier = some (.identifier name, ')' :: rest) := by
    rw [Token.read?, h]
    rfl
  rcases Token.endsBefore_of_read? plain ht hread ')' rfl with hg | ⟨-, hcount⟩
  · cases hg
  · exact hcount

end Identifier

namespace Key

/-- A text whose part in front of its first equals sign is the name of a key without a table: it is not
empty and has no blank, parenthesis or quote. -/
structure Splits (t name rest : Text) : Prop where
  text_eq : t = name ++ '=' :: rest
  first : '=' ∉ name
  name_ne_nil : name ≠ []
  plain : ∀ c ∈ name, Text.isBlank c = false ∧ c ≠ '(' ∧ c ≠ ')' ∧ c ≠ '"' ∧ c ≠ '\''

lemma isChar_iff (c : Char) : isChar c = true ↔
    (Text.isBlank c = false ∧ c ≠ '(' ∧ c ≠ ')' ∧ c ≠ '"' ∧ c ≠ '\'') ∧ c ≠ '=' := by
  rw [isChar, Bool.and_eq_true, Identifier.isNameChar_iff, bne_iff_ne]

/-- A key that is in no table is read exactly where a text can be split behind one. -/
theorem readGeneric?_eq_some_iff {t name rest : Text} :
    readGeneric? t = some (name, rest) ↔ Splits t name rest := by
  constructor
  · intro h
    have happ := text_append_of_readGeneric? h
    unfold readGeneric? at h
    split at h
    · next c name' rest' hname _ =>
      cases h
      have hchars : ∀ e ∈ c :: name', isChar e = true := by
        rw [← hname]
        exact fun e he => List.mem_takeWhile_imp he
      refine ⟨?_, equals_not_mem hchars, List.cons_ne_nil c name',
        fun e he => ((isChar_iff e).1 (hchars e he)).1⟩
      rw [← happ, text, List.append_assoc]
      rfl
    · cases h
  · rintro ⟨rfl, hfirst, hne, hplain⟩
    have hchars : ∀ c ∈ name, isChar c = true := by
      intro c hc
      apply (isChar_iff c).2
      refine ⟨hplain c hc, ?_⟩
      rintro rfl
      exact hfirst hc
    have h := readGeneric?_text_append hne hchars rest
    rwa [text, List.append_assoc] at h

end Key

namespace Location

/-- The form of a location: a file part without delimiters, which may be empty, and digits in its
numbers. -/
structure Formed (l : Location) : Prop where
  file : ∀ c ∈ l.file, c ≠ ':' ∧ c ≠ '(' ∧ c ≠ ')'
  line_ne_nil : l.line ≠ []
  line : ∀ c ∈ l.line, c.isDigit = true
  column_ne_nil : l.column ≠ []
  column : ∀ c ∈ l.column, c.isDigit = true

/-- A location, and what follows it, where no more digits do. -/
structure Ends (t : Text) (l : Location) (rest : Text) : Prop where
  formed : l.Formed
  text_append : l.text ++ rest = t
  no_digit : ∀ c ∈ rest.head?, c.isDigit = false

lemma isFileChar_iff (c : Char) : isFileChar c = true ↔ c ≠ ':' ∧ c ≠ '(' ∧ c ≠ ')' := by
  simp [isFileChar, and_assoc]

lemma Written.formed {l : Location} (h : l.Written) : l.Formed where
  file := fun c hc => (isFileChar_iff c).1 (h.file c hc)
  line_ne_nil := h.line_ne_nil
  line := h.line
  column_ne_nil := h.column_ne_nil
  column := h.column

/-- Behind a gap a location of this form can be written. -/
lemma Formed.written {l : Location} (h : l.Formed) {rest : Text}
    (ht : Text.Trimmed (l.text ++ rest)) : l.Written where
  file := fun c hc => (isFileChar_iff c).2 (h.file c hc)
  trimmed := by
    intro c hc
    obtain ⟨file, hfile⟩ := List.head?_eq_some_iff.1 hc
    rw [text, hfile] at ht
    exact (Text.trimmed_cons c _).1 ht
  line_ne_nil := h.line_ne_nil
  line := h.line
  column_ne_nil := h.column_ne_nil
  column := h.column

/-- A location is read exactly where the text can be cut behind one and in front of no digit. -/
theorem read?_eq_some_iff {t rest : Text} {l : Location} (ht : Text.Trimmed t) :
    read? t = some (l, rest) ↔ Ends t l rest := by
  constructor
  · intro h
    have hw := written_of_read? ht h
    have happ := text_append_of_read? h
    refine ⟨hw.formed, happ, ?_⟩
    rw [← happ, read?_text_append hw, Option.some.injEq, Prod.mk.injEq] at h
    have hcolumn := congrArg text h.1
    rw [text_extend, List.append_right_eq_self] at hcolumn
    exact (Token.takeWhile_isDigit_eq_nil_iff rest).1 hcolumn
  · rintro ⟨hf, rfl, hd⟩
    have hnil := (Token.takeWhile_isDigit_eq_nil_iff rest).2 hd
    have hsplit := List.takeWhile_append_dropWhile (p := Char.isDigit) (l := rest)
    rw [hnil, List.nil_append] at hsplit
    rw [read?_text_append (hf.written ht), hnil, extend_nil, hsplit]

/-- A location that stands at the start of a text is read from there, with all the digits behind it. -/
lemma exists_ends {t : Text} {l : Location} (ht : Text.Trimmed t) (hf : l.Formed) (hp : l.text <+: t) :
    ∃ digits rest, Ends t (l.extend digits) rest := by
  obtain ⟨more, rfl⟩ := hp
  exact ⟨_, _, (read?_eq_some_iff ht).1 (read?_text_append (hf.written ht) more)⟩

/-- All locations with which a text begins have the same file and the same line, and the one that is read
has the longest column of them. -/
lemma Ends.of_start {t rest : Text} {l other : Location} (ht : Text.Trimmed t) (h : Ends t l rest)
    (hf : other.Formed) (hp : other.text <+: t) :
    other.file = l.file ∧ other.line = l.line ∧ other.column <+: l.column := by
  obtain ⟨digits, rest', hother⟩ := exists_ends ht hf hp
  have hread := (read?_eq_some_iff ht).2 h
  rw [(read?_eq_some_iff ht).2 hother, Option.some.injEq, Prod.mk.injEq] at hread
  obtain ⟨rfl, -⟩ := hread
  exact ⟨rfl, rfl, digits, rfl⟩

/-- The file part ends in front of the first colon of the text. -/
lemma Formed.file_eq {t : Text} {l : Location} (hf : l.Formed) (hp : l.text <+: t) :
    l.file = t.takeWhile (· != ':') := by
  obtain ⟨more, rfl⟩ := hp
  have hcolon : ':' ∉ l.file := fun hm => (hf.file ':' hm).1 rfl
  rw [text, List.append_assoc]
  exact (Text.takeWhile_bne_append hcolon _).symm

/-- The file part goes up to the first delimiter. -/
lemma takeWhile_isFileChar_append {file rest : Text} (hf : ∀ c ∈ file, c ≠ ':' ∧ c ≠ '(' ∧ c ≠ ')')
    (hr : ∀ c ∈ rest.head?, c = ':' ∨ c = '(' ∨ c = ')') :
    (file ++ rest).takeWhile isFileChar = file := by
  apply Text.takeWhile_append_of_head
  · exact fun c hc => (isFileChar_iff c).2 (hf c hc)
  · intro c hc
    rcases hr c hc with rfl | rfl | rfl <;> rfl

/-- What stands behind the characters in front of the first delimiter decides alone whether a location
does: a colon, digits, a colon and a digit. -/
lemma Ends.exists_digits {before after rest : Text} {l : Location} (h : Ends (before ++ after) l rest)
    (hb : ∀ c ∈ before, c ≠ ':' ∧ c ≠ '(' ∧ c ≠ ')')
    (ha : ∀ c ∈ after.head?, c = ':' ∨ c = '(' ∨ c = ')') :
    ∃ line d more, after = ':' :: (line ++ ':' :: d :: more) ∧ line ≠ [] ∧
      (∀ c ∈ line, c.isDigit = true) ∧ d.isDigit = true := by
  obtain ⟨d, column, hcolumn⟩ := List.exists_cons_of_ne_nil h.formed.column_ne_nil
  have happ : l.file ++ ':' :: (l.line ++ ':' :: d :: (column ++ rest)) = before ++ after := by
    have htext := h.text_append
    rw [text, hcolumn] at htext
    simpa using htext
  -- Both cuts are made in front of the first delimiter, and so they are one.
  have hfile : l.file = before := by
    have hcut := congrArg (List.takeWhile isFileChar) happ
    rwa [takeWhile_isFileChar_append h.formed.file (by simp), takeWhile_isFileChar_append hb ha] at hcut
  rw [hfile] at happ
  refine ⟨l.line, d, column ++ rest, (List.append_cancel_left happ).symm, h.formed.line_ne_nil,
    h.formed.line, ?_⟩
  exact h.formed.column d (by rw [hcolumn]; exact List.mem_cons_self)

end Location

namespace Declaration

/-- A text that begins with a name and the at sign that ends it: any character but an opening parenthesis,
then neither at signs nor blanks, then the sign. -/
structure Splits (t : Text) (c : Char) (tail rest : Text) : Prop where
  text_eq : t = c :: (tail ++ '@' :: rest)
  first : c ≠ '('
  tail : ∀ e ∈ tail, e ≠ '@' ∧ Text.isBlank e = false

/-- A name with its at sign, all of the gap behind it, and a location that ends in front of no digit. -/
structure Cuts (t : Text) (c : Char) (tail gap : Text) (place : Location) (rest : Text) : Prop where
  name : Splits t c tail (gap ++ (place.text ++ rest))
  gap : Text.GapOnly gap
  trimmed : Text.Trimmed (place.text ++ rest)
  place : Location.Ends (place.text ++ rest) place rest

lemma isTailChar_iff (c : Char) : isTailChar c = true ↔ c ≠ '@' ∧ Text.isBlank c = false := by
  simp [isTailChar]

lemma readName?_eq_some_iff_splits {t rest : Text} {c : Char} {tail : Text} :
    readName? t = some (c :: tail, rest) ↔ Splits t c tail rest := by
  constructor
  · intro h
    obtain ⟨d, tail', he, hd, ht, hr⟩ := readName?_eq_some_iff.1 h
    cases he
    exact ⟨hr, hd, fun e he => (isTailChar_iff e).1 (ht e he)⟩
  · rintro ⟨rfl, hc, ht⟩
    exact readName?_append hc (fun e he => (isTailChar_iff e).2 (ht e he)) rest

/-- The name of a declaration stands exactly where a text can be split behind one. -/
lemma starts_iff_splits (t : Text) : starts t = true ↔ ∃ c tail rest, Splits t c tail rest := by
  rw [← readName?_isSome, Option.isSome_iff_exists]
  constructor
  · rintro ⟨⟨name, rest⟩, h⟩
    obtain ⟨c, tail, rfl, -⟩ := readName?_eq_some_iff.1 h
    exact ⟨c, tail, rest, readName?_eq_some_iff_splits.1 h⟩
  · rintro ⟨c, tail, rest, h⟩
    exact ⟨(c :: tail, rest), readName?_eq_some_iff_splits.2 h⟩

/-- A text can be split behind a name in one way only. -/
lemma Splits.eq {t tail rest tail' rest' : Text} {c c' : Char} (h : Splits t c tail rest)
    (h' : Splits t c' tail' rest') : c = c' ∧ tail = tail' ∧ rest = rest' := by
  have hname := readName?_eq_some_iff_splits.2 h
  rw [readName?_eq_some_iff_splits.2 h', Option.some.injEq, Prod.mk.injEq, List.cons.injEq] at hname
  obtain ⟨⟨hc, ht⟩, hr⟩ := hname
  exact ⟨hc.symm, ht.symm, hr.symm⟩

/-- A declaration is read exactly where a text can be cut behind one. -/
theorem read?_eq_some_iff {t rest : Text} {d : Declaration} :
    read? t = some (d, rest) ↔ ∃ c tail, d.name = c :: tail ∧ Cuts t c tail d.gap d.place rest := by
  constructor
  · intro h
    simp only [read?, Option.bind_eq_bind, Option.bind_eq_some_iff, Prod.exists] at h
    obtain ⟨name, r, hname, place, rest', hplace, he⟩ := h
    cases he
    obtain ⟨c, tail, rfl, -⟩ := readName?_eq_some_iff.1 hname
    have hends := (Location.read?_eq_some_iff (Text.trimmed_skipGap r)).1 hplace
    have happ := hends.text_append
    refine ⟨c, tail, rfl, ?_, Text.gapOnly_gap r, ?_, ?_⟩
    · rw [happ, Text.gap_append_skipGap]
      exact readName?_eq_some_iff_splits.1 hname
    · rw [happ]
      exact Text.trimmed_skipGap r
    · rw [happ]
      exact hends
  · rintro ⟨c, tail, hname, hcuts⟩
    have hread := readName?_eq_some_iff_splits.2 hcuts.name
    have hplace := (Location.read?_eq_some_iff hcuts.trimmed).2 hcuts.place
    rw [← hname] at hread
    simp [read?, hread, Text.skipGap_append_trimmed hcuts.gap hcuts.trimmed,
      Text.gap_append_trimmed hcuts.gap hcuts.trimmed, hplace]

/-- What was cut out of a text is cut out again, with any gap in it and in front of any text that does not
go on with digits. -/
lemma Cuts.again {t tail gap rest : Text} {c : Char} {place : Location}
    (h : Cuts t c tail gap place rest) {other more : Text} (hg : Text.GapOnly other)
    (hd : ∀ e ∈ more.head?, e.isDigit = false) :
    Cuts (c :: (tail ++ '@' :: (other ++ place.text)) ++ more) c tail other place more where
  name := ⟨by simp, h.name.first, h.name.tail⟩
  gap := hg
  trimmed := by
    have hne : place.text ≠ [] := by simp [Location.text]
    exact (Text.trimmed_append_iff hne more).2 ((Text.trimmed_append_iff hne rest).1 h.trimmed)
  place := ⟨h.place.formed, rfl, hd⟩

end Declaration
end TreeDump
