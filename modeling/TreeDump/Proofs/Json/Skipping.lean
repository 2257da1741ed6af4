import TreeDump.Proofs.Json.Strings

/-! Skipping a value of JSON. Of any text that the grammar admits, a skip takes exactly this text: the open
brackets on its stack are as they were, and it stops at the first character behind. -/
namespace TreeDump
namespace Json

/-- A text with which a number in front of it does not go on. -/
def EndsNumber (t : Text) : Prop :=
  ∀ c ∈ t.head?, c.isDigit = false ∧ c ≠ '.' ∧ c ≠ 'e' ∧ c ≠ 'E'

lemma endsNumber_append_cons {blanks : Text} (h : Blanks blanks) {c : Char}
    (hc : c = ',' ∨ c = ']' ∨ c = '\x7d') (r : Text) : EndsNumber (blanks ++ c :: r) := by
  cases blanks with
  | nil =>
    rintro _ ⟨⟩
    rcases hc with rfl | rfl | rfl <;> decide
  | cons b _ =>
    rintro _ ⟨⟩
    have hb := h b List.mem_cons_self
    simp only [isBlank, Bool.or_eq_true, beq_iff_eq] at hb
    rcases hb with ((rfl | rfl) | rfl) | rfl <;> decide

lemma EndsNumber.isDigit_head {t : Text} (h : EndsNumber t) : ∀ c ∈ t.head?, c.isDigit = false :=
  fun c hc => (h c hc).1

variable (atEnd : Cause) {rest : Text}

lemma scanDigits_append {digits : Text} (h : Digits digits) (hr : ∀ c ∈ rest.head?, c.isDigit = false) :
    scanDigits atEnd (digits ++ rest) = .ok (digits, rest) := by
  unfold scanDigits
  rw [Text.takeWhile_append_of_head h.2 hr, Text.dropWhile_append_of_head h.2 hr]
  split
  · exact absurd rfl h.1
  · rfl

lemma scanWhole_append {whole : Text} (h : Whole whole) (hr : ∀ c ∈ rest.head?, c.isDigit = false) :
    scanWhole atEnd (whole ++ rest) = .ok (whole, rest) := by
  obtain ⟨hdigits, hzero⟩ := h
  unfold scanWhole
  split
  · next d r ht =>
    obtain ⟨c, tail, rfl⟩ := List.exists_cons_of_ne_nil hdigits.1
    obtain ⟨rfl, htail⟩ := List.cons.inj ht
    obtain rfl : tail = [] := by simpa using hzero rfl
    obtain rfl : rest = d :: r := htail
    rw [if_neg (by simp [hr d rfl])]
  · exact scanDigits_append atEnd hdigits hr

lemma Fraction.endsWhole {fraction : Text} (h : Fraction fraction)
    (hr : ∀ c ∈ rest.head?, c.isDigit = false) : ∀ c ∈ (fraction ++ rest).head?, c.isDigit = false := by
  cases h with
  | none => exact hr
  | some h =>
    rintro _ ⟨⟩
    rfl

lemma Exponent.endsFraction {exponent : Text} (h : Exponent exponent) (hr : EndsNumber rest) :
    ∀ c ∈ (exponent ++ rest).head?, c.isDigit = false ∧ c ≠ '.' := by
  cases h with
  | none => exact fun c hc => ⟨(hr c hc).1, (hr c hc).2.1⟩
  | some marked =>
    rintro _ ⟨⟩
    rcases marked with rfl | rfl <;> decide

lemma scanFraction_append {fraction : Text} (h : Fraction fraction)
    (hr : ∀ c ∈ rest.head?, c.isDigit = false ∧ c ≠ '.') :
    ∃ digits, scanFraction atEnd (fraction ++ rest) = .ok (digits, rest) := by
  cases h with
  | none =>
    refine ⟨[], ?_⟩
    unfold scanFraction
    split
    · next ht => exact absurd rfl (hr '.' (by rw [← List.nil_append rest, ht]; rfl)).2
    · rfl
  | some h => exact ⟨_, scanDigits_append atEnd h fun c hc => (hr c hc).1⟩

lemma splitSign_append {sign digits : Text} (signed : sign = [] ∨ sign = ['+'] ∨ sign = ['-'])
    (h : Digits digits) : (splitSign (sign ++ (digits ++ rest))).2 = digits ++ rest := by
  rcases signed with rfl | rfl | rfl
  · obtain ⟨d, tail, rfl⟩ := List.exists_cons_of_ne_nil h.1
    have hd := h.2 d List.mem_cons_self
    simp only [List.nil_append, List.cons_append]
    unfold splitSign
    split
    · next ht => cases (List.cons.inj ht).1; cases hd
    · next ht => cases (List.cons.inj ht).1; cases hd
    · rfl
  · rfl
  · rfl

lemma scanExponent_append {exponent : Text} (h : Exponent exponent) (hr : EndsNumber rest) :
    ∃ e, scanExponent atEnd (exponent ++ rest) = .ok (e, rest) := by
  cases h with
  | none =>
    refine ⟨none, ?_⟩
    cases rest with
    | nil => rfl
    | cons c r =>
      obtain ⟨-, -, he, hE⟩ := hr c rfl
      simp [scanExponent, he, hE]
  | @some mark sign digits marked signed h =>
    refine ⟨some ⟨(splitSign (sign ++ (digits ++ rest))).1, digits⟩, ?_⟩
    have hdigits := scanDigits_append atEnd h hr.isDigit_head
    rw [List.cons_append, List.append_assoc, scanExponent, if_pos marked, splitSign_append signed h,
      hdigits]
    rfl

lemma scanNumeral_append {t : Text} (h : Number t) (hr : EndsNumber rest) :
    ∃ n, scanNumeral atEnd (t ++ rest) = .ok (n, rest) := by
  obtain ⟨signed, w, f, e⟩ := h
  rename_i sign whole fraction exponent
  obtain ⟨digits, hfraction⟩ := scanFraction_append atEnd f (e.endsFraction hr)
  obtain ⟨power, hexponent⟩ := scanExponent_append atEnd e hr
  have hwhole := scanWhole_append atEnd w
    (f.endsWhole fun c hc => (e.endsFraction hr c hc).1)
  have hunsigned : ∀ negative, scanUnsigned atEnd negative
      (whole ++ (fraction ++ (exponent ++ rest))) = .ok (⟨negative, whole, digits, power⟩, rest) := by
    intro negative
    simp only [scanUnsigned, hwhole, hfraction, hexponent, bind, Except.bind]
    rfl
  simp only [List.append_assoc]
  rcases signed with rfl | rfl
  · refine ⟨⟨false, whole, digits, power⟩, ?_⟩
    unfold scanNumeral
    split
    · next ht =>
      obtain ⟨c, tail, rfl⟩ := List.exists_cons_of_ne_nil w.1.1
      have hc := w.1.2 c List.mem_cons_self
      cases (List.cons.inj ht).1
      cases hc
    · exact hunsigned false
  · exact ⟨⟨true, whole, digits, power⟩, hunsigned true⟩

lemma skipString_append (part rest : Text) :
    skipString part.length (part ++ rest) = skipString 0 rest := by
  induction part with
  | nil => rfl
  | cons c r ih =>
    rw [List.length_cons, List.cons_append, skipString]
    exact ih

/-- A skip of a string that begins with an escape goes on behind it. -/
lemma skipString_escape (part : Text) (h : skipEscape (part ++ rest) = .ok part.length) :
    skipString 0 ('\\' :: (part ++ rest)) = skipString 0 rest := by
  simp only [skipString, h, skipString_append, show ('\\' : Char) ≠ '"' by decide, if_false, if_true]

lemma skipEscape_letter {e : Char} (h : e ∈ "\"\\/bfnrt".toList) (rest : Text) :
    skipEscape (e :: rest) = .ok 1 := by
  have hall : ∀ e ∈ "\"\\/bfnrt".toList, e ≠ 'u' ∧ (escaped? e).isSome = true := by decide
  obtain ⟨hu, hsome⟩ := hall e h
  obtain ⟨c, hc⟩ := Option.isSome_iff_exists.1 hsome
  unfold skipEscape
  split
  · cases ‹e :: rest = []›
  · next he => exact absurd (List.cons.inj he).1 hu
  · next he =>
    obtain ⟨rfl, rfl⟩ := List.cons.inj he
    rw [hc]

/-- Hexadecimal digits have a value. -/
lemma exists_hexValue? {digits : Text} (h : ∀ d ∈ digits, (hexDigit? d).isSome = true) :
    ∃ value, hexValue? digits = some value := by
  suffices hfold : ∀ start : Nat, ∃ value,
      digits.foldl (fun value c => do return 16 * (← value) + (← hexDigit? c)) (some start) =
        some value from hfold 0
  induction digits with
  | nil => exact fun start => ⟨start, rfl⟩
  | cons d r ih =>
    intro start
    obtain ⟨hd, hr⟩ := List.forall_mem_cons.1 h
    obtain ⟨value, hvalue⟩ := Option.isSome_iff_exists.1 hd
    rw [List.foldl_cons, hvalue]
    exact ih hr (16 * start + value)

lemma skipString_character {part : Text} (h : Character part) (rest : Text) :
    skipString 0 (part ++ rest) = skipString 0 rest := by
  cases h with
  | plain quote backslash control =>
    have hcontrol : isControl _ = false := decide_eq_false (Char.not_lt.2 control)
    simp only [List.singleton_append, skipString, if_neg quote, if_neg backslash, hcontrol,
      Bool.false_eq_true, if_false]
  | letter h => exact skipString_escape [_] (skipEscape_letter h rest)
  | @number digits four hex =>
    obtain ⟨value, hvalue⟩ := exists_hexValue? hex
    apply skipString_escape ('u' :: digits)
    simp only [List.cons_append, skipEscape, scanHex_append four hvalue, bind, Except.bind,
      List.length_cons, four]
    rfl

lemma IsString.skipString_tail {t : Text} (h : IsString t) (rest : Text) :
    ∃ r, t ++ rest = '"' :: r ∧ skipString 0 r = .ok rest := by
  obtain ⟨h⟩ := h
  rename_i parts
  refine ⟨parts.flatten ++ '"' :: rest, by simp, ?_⟩
  induction parts with
  | nil => simp [skipString]
  | cons part parts ih =>
    obtain ⟨hpart, hparts⟩ := List.forall_mem_cons.1 h
    rw [List.flatten_cons, List.append_assoc, skipString_character hpart, ih hparts]

lemma Number.exists_cons {t : Text} (h : Number t) :
    ∃ c r, t = c :: r ∧ (c = '-' ∨ c.isDigit = true) := by
  obtain ⟨signed, w, -, -⟩ := h
  rcases signed with rfl | rfl
  · obtain ⟨c, tail, rfl⟩ := List.exists_cons_of_ne_nil w.1.1
    exact ⟨c, _, rfl, .inr (w.1.2 c List.mem_cons_self)⟩
  · exact ⟨'-', _, rfl, .inl rfl⟩

/-- Words, strings and numbers are skipped in one go. -/
lemma skipScalar_word {t : Text} (h : t ∈ ["null".toList, "true".toList, "false".toList])
    (rest : Text) : skipScalar (t ++ rest) = .ok rest := by
  simp only [List.mem_cons, List.not_mem_nil, or_false] at h
  rcases h with rfl | rfl | rfl <;> simp [skipScalar, scanWord]

lemma skipScalar_string {t : Text} (h : IsString t) (rest : Text) :
    skipScalar (t ++ rest) = .ok rest := by
  obtain ⟨r, ht, hr⟩ := h.skipString_tail rest
  simp [ht, skipScalar, hr]

lemma skipScalar_number {t : Text} (h : Number t) (hr : EndsNumber rest) :
    skipScalar (t ++ rest) = .ok rest := by
  obtain ⟨n, hn⟩ := scanNumeral_append .invalidNumber h hr
  obtain ⟨c, r, rfl, hc⟩ := h.exists_cons
  have hother : ∀ d ∈ ['n', 't', 'f', '"'], ¬ (d = '-' ∨ d.isDigit = true) := by decide
  have hne : ∀ d ∈ ['n', 't', 'f', '"'], c ≠ d := fun d hd he => hother d hd (he ▸ hc)
  rw [List.cons_append] at hn ⊢
  simp only [skipScalar, if_neg (hne 'n' (by decide)), if_neg (hne 't' (by decide)),
    if_neg (hne 'f' (by decide)), if_neg (hne '"' (by decide)), if_pos hc, hn]

/-- No scalar begins with a blank or a bracket. -/
lemma exists_cons_of_skipScalar {t : Text} (h : skipScalar t = .ok rest) :
    ∃ c r, t = c :: r ∧ isBlank c = false ∧ c ∉ ['[', ']', '\x7b'] := by
  cases t with
  | nil => cases h
  | cons c r =>
    refine ⟨c, r, rfl, ?_, ?_⟩
    · rw [Bool.eq_false_iff]
      intro hblank
      simp only [isBlank, Bool.or_eq_true, beq_iff_eq] at hblank
      rcases hblank with ((rfl | rfl) | rfl) | rfl <;> cases h
    · intro hbracket
      simp only [List.mem_cons, List.not_mem_nil, or_false] at hbracket
      rcases hbracket with rfl | rfl | rfl <;> cases h

lemma skipPart_of_skipScalar {t : Text} (h : skipScalar t = .ok rest) (stack : List Bracket) :
    skipPart stack t = nextValue false stack rest := by
  obtain ⟨c, r, rfl, hblank, hbracket⟩ := exists_cons_of_skipScalar h
  unfold skipPart
  rw [skipBlanks_cons hblank]
  split
  · next ht => exact absurd (by simp [(List.cons.inj ht).1]) hbracket
  · next ht => exact absurd (by simp [(List.cons.inj ht).1]) hbracket
  · rw [h]

lemma isBlank_opening (bracket : Bracket) : isBlank bracket.opening = false := by
  cases bracket <;> rfl

lemma isBlank_closing (bracket : Bracket) : isBlank bracket.closing = false := by
  cases bracket <;> rfl

lemma skipPart_opening (bracket : Bracket) (stack : List Bracket) (t : Text) :
    skipPart stack (bracket.opening :: t) = nextValue true (bracket :: stack) t := by
  unfold skipPart
  rw [skipBlanks_cons (isBlank_opening bracket)]
  cases bracket <;> rfl

/-- A value begins with no blank, and with nothing that ends a list. -/
lemma Value.exists_cons {t : Text} (h : Value t) : ∃ c r, t = c :: r ∧ isBlank c = false ∧ c ≠ ']' := by
  have scalar : ∀ {s : Text}, skipScalar (s ++ []) = .ok [] →
      ∃ c r, s = c :: r ∧ isBlank c = false ∧ c ≠ ']' := by
    intro s hs
    obtain ⟨c, r, ht, hblank, hbracket⟩ := exists_cons_of_skipScalar hs
    rw [List.append_nil] at ht
    exact ⟨c, r, ht, hblank, fun he => hbracket (by simp [he])⟩
  cases h with
  | word h => exact scalar (skipScalar_word h [])
  | number h => exact scalar (skipScalar_number h nofun)
  | string h => exact scalar (skipScalar_string h [])
  | group bracket => exact ⟨_, _, rfl, isBlank_opening bracket, by cases bracket <;> decide⟩

variable {bracket : Bracket} {stack : List Bracket} {blanks : Text}

lemma nextValue_closing (opened : Bool) (h : Blanks blanks) (rest : Text) :
    nextValue opened (bracket :: stack) (blanks ++ bracket.closing :: rest) =
      nextValue false stack rest := by
  rw [nextValue, skipBlanks_append_cons h (isBlank_closing bracket)]
  exact if_pos rfl

lemma nextValue_comma (h : Blanks blanks) {t : Text} (hn : skipName bracket t = .ok rest) :
    nextValue false (bracket :: stack) (blanks ++ ',' :: t) = .ok (bracket :: stack, rest) := by
  have hclosing : ',' ≠ bracket.closing := by cases bracket <;> decide
  rw [nextValue, skipBlanks_append_cons h (by decide)]
  simp only [if_neg hclosing, Bool.false_eq_true, if_false, if_true, hn]

lemma nextValue_opened {t r : Text} {c : Char} (ht : skipBlanks t = c :: r)
    (hclosing : c ≠ bracket.closing) (hn : skipName bracket (c :: r) = .ok rest) :
    nextValue true (bracket :: stack) t = .ok (bracket :: stack, rest) := by
  rw [nextValue, ht]
  simp only [if_neg hclosing, if_true, hn]

/-- Goes on with the values that open brackets still wait for, if there are any. -/
def skipOn : Except Fault (List Bracket × Text) → Except Fault Text
  | .error f => .error f
  | .ok ([], rest) => .ok rest
  | .ok (bracket :: outer, rest) => skipValues (bracket :: outer) rest

lemma skipValues_eq (stack : List Bracket) (t : Text) :
    skipValues stack t = skipOn (skipPart stack t) := by
  rw [skipValues]
  split
  · next h => rw [h]; rfl
  · next h => rw [h]; rfl
  · next h => rw [h]; rfl

lemma skipValues_skipBlanks (stack : List Bracket) (t : Text) :
    skipValues stack (skipBlanks t) = skipValues stack t := by
  simp only [skipValues_eq, skipPart, skipBlanks_skipBlanks]

lemma skipName_skipBlanks (t : Text) : skipName .object (skipBlanks t) = skipName .object t := by
  simp only [skipName, skipBlanks_skipBlanks]

lemma exists_quote {name : Padded} (h : IsString name.core) (rest : Text) :
    ∃ r, name.text ++ [':'] ++ rest = name.before ++ '"' :: r ∧
      skipString 0 r = .ok (name.after ++ ':' :: rest) := by
  obtain ⟨r, hname, hr⟩ := h.skipString_tail (name.after ++ ':' :: rest)
  refine ⟨r, ?_, hr⟩
  rw [← hname]
  simp [Padded.text]

/-- What stands in front of a value in a group is skipped: in an object a name and a colon. -/
lemma Lead.skipName_append {lead : Text} (h : Lead bracket lead) (rest : Text) :
    skipName bracket (lead ++ rest) = .ok rest := by
  cases h with
  | list => rfl
  | @object name h =>
    have hcolon : isBlank ':' = false := by decide
    obtain ⟨r, ht, hr⟩ := exists_quote h rest
    rw [ht, skipName, skipBlanks_append_cons name.blanks_before (by decide)]
    simp only [if_true, hr, scanColon, skipBlanks_append_cons name.blanks_after hcolon]

lemma Padded.skipBlanks_text {p : Padded} {c : Char} {r : Text} (hcore : p.core = c :: r)
    (hblank : isBlank c = false) (t : Text) : skipBlanks (p.text ++ t) = p.core ++ (p.after ++ t) := by
  rw [p.text_append, skipBlanks_append p.blanks_before, hcore, List.cons_append,
    skipBlanks_cons hblank]

/-- Behind an opening bracket a skip stops in front of the first value, blanks apart. -/
lemma nextValue_entry {e : Entry} (lead : Lead bracket e.lead) (value : Value e.value.core)
    (h : Blanks blanks) (t : Text) :
    ∃ r, nextValue true (bracket :: stack) (blanks ++ (e.text ++ t)) = .ok (bracket :: stack, r) ∧
      skipBlanks r = skipBlanks (e.value.text ++ t) := by
  obtain ⟨front, v⟩ := e
  have hname := lead.skipName_append (v.text ++ t)
  have hskip : skipBlanks (blanks ++ (Entry.text ⟨front, v⟩ ++ t)) =
      skipBlanks (front ++ (v.text ++ t)) := by
    rw [skipBlanks_append h, Entry.text, List.append_assoc]
  cases lead with
  | list =>
    obtain ⟨c, r, hcore, hblank, hclosing⟩ := value.exists_cons
    rw [List.nil_append, Padded.skipBlanks_text hcore hblank, hcore] at hskip
    refine ⟨_, nextValue_opened hskip hclosing rfl, ?_⟩
    rw [Padded.skipBlanks_text hcore hblank, hcore]
    exact skipBlanks_cons hblank _
  | @object name hn =>
    obtain ⟨r, hquote, -⟩ := exists_quote hn (v.text ++ t)
    have hfirst : skipBlanks (name.text ++ [':'] ++ (v.text ++ t)) = '"' :: r := by
      rw [hquote, skipBlanks_append_cons name.blanks_before (by decide)]
    have hskipName : skipName .object ('"' :: r) = .ok (v.text ++ t) := by
      rw [← hfirst, skipName_skipBlanks]
      exact hname
    exact ⟨_, nextValue_opened (hskip.trans hfirst) (by decide) hskipName, rfl⟩

/-- The first character behind a value in a group. -/
lemma endsNumber_remainder (h : Blanks blanks) (others : List Entry) (rest : Text) :
    EndsNumber (blanks ++ bracket.remainder others rest) := by
  cases others with
  | nil => exact endsNumber_append_cons h (by cases bracket <;> decide) rest
  | cons e more =>
    rw [Bracket.remainder_cons]
    exact endsNumber_append_cons h (.inl rfl) _

lemma skipValues_padded (stack : List Bracket) (p : Padded) (t : Text) :
    skipValues stack (p.text ++ t) = skipValues stack (p.core ++ (p.after ++ t)) := by
  rw [← skipValues_skipBlanks, p.text_append, skipBlanks_append p.blanks_before,
    skipValues_skipBlanks]

/-- Behind a value in a group the other entries are skipped, one after the other, and the end. -/
lemma skipOn_remainder {others : List Entry} (leads : ∀ e ∈ others, Lead bracket e.lead)
    (values : ∀ e ∈ others, ∀ rest, EndsNumber rest →
      skipValues (bracket :: stack) (e.value.core ++ rest) =
        skipOn (nextValue false (bracket :: stack) rest))
    (h : Blanks blanks) (rest : Text) :
    skipOn (nextValue false (bracket :: stack) (blanks ++ bracket.remainder others rest)) =
      skipOn (nextValue false stack rest) := by
  induction others generalizing blanks with
  | nil => rw [Bracket.remainder, List.flatMap_nil, List.nil_append, nextValue_closing false h]
  | cons e more ih =>
    obtain ⟨hlead, hleads⟩ := List.forall_mem_cons.1 leads
    obtain ⟨hvalue, hvalues⟩ := List.forall_mem_cons.1 values
    have hname : skipName bracket (e.text ++ bracket.remainder more rest) =
        .ok (e.value.text ++ bracket.remainder more rest) := by
      rw [Entry.text, List.append_assoc]
      exact hlead.skipName_append _
    rw [Bracket.remainder_cons, nextValue_comma h hname]
    change skipValues (bracket :: stack) _ = _
    rw [skipValues_padded, hvalue _ (endsNumber_remainder e.value.blanks_after more rest)]
    exact ih hleads hvalues e.value.blanks_after

/-- A skip takes a value, whatever the value is and however deep it nests, and goes on behind it with the
brackets that were open before. -/
theorem Value.skipValues_append {t : Text} (h : Value t) (stack : List Bracket) {rest : Text}
    (hr : EndsNumber rest) : skipValues stack (t ++ rest) = skipOn (nextValue false stack rest) := by
  induction h generalizing stack rest with
  | word h => rw [skipValues_eq, skipPart_of_skipScalar (skipScalar_word h rest)]
  | number h => rw [skipValues_eq, skipPart_of_skipScalar (skipScalar_number h hr)]
  | string h => rw [skipValues_eq, skipPart_of_skipScalar (skipScalar_string h rest)]
  | @group bracket blanks entries hblanks leads values ih =>
    rw [skipValues_eq]
    cases entries with
    | nil => rw [Bracket.group_nil_append, skipPart_opening, nextValue_closing true hblanks]
    | cons e others =>
      obtain ⟨hlead, hleads⟩ := List.forall_mem_cons.1 leads
      obtain ⟨hfirst, hothers⟩ := List.forall_mem_cons.1 ih
      obtain ⟨r, hentry, hskip⟩ := nextValue_entry hlead
        (values e List.mem_cons_self) hblanks (bracket.remainder others rest)
      rw [Bracket.group_cons_append, skipPart_opening, hentry]
      change skipValues (bracket :: stack) r = _
      rw [← skipValues_skipBlanks, hskip, skipValues_skipBlanks, skipValues_padded,
        hfirst _ (endsNumber_remainder e.value.blanks_after others rest)]
      exact skipOn_remainder hleads (fun e he rest hr => hothers e he (bracket :: stack) hr)
        e.value.blanks_after rest

/-- So the text that stands behind a value is what is left after it. -/
theorem Value.skipValue_append {t : Text} (h : Value t) {rest : Text} (hr : EndsNumber rest) :
    skipValue (t ++ rest) = .ok rest := h.skipValues_append [] hr

end Json
end TreeDump
