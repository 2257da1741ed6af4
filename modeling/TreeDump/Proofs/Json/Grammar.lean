import TreeDump.Json.Skip
import TreeDump.Proofs.Gap

/-! The grammar of JSON text, as a predicate on what is written and not by a scanner. Blanks may stand
between any two parts, numbers may have any size, and lists and objects nest to any depth. -/
namespace TreeDump
namespace Json

/-- A run of characters that may stand between the parts of JSON text. It may be empty. -/
def Blanks (t : Text) : Prop := ∀ c ∈ t, isBlank c = true

instance (t : Text) : Decidable (Blanks t) := inferInstanceAs (Decidable (∀ c ∈ t, isBlank c = true))

@[simp] lemma blanks_nil : Blanks [] := by simp [Blanks]

lemma Blanks.append {s t : Text} (hs : Blanks s) (ht : Blanks t) : Blanks (s ++ t) := by
  intro c hc
  rcases List.mem_append.1 hc with hc | hc
  · exact hs c hc
  · exact ht c hc

lemma skipBlanks_append {blanks : Text} (h : Blanks blanks) (t : Text) :
    skipBlanks (blanks ++ t) = skipBlanks t := List.dropWhile_append_of_pos h

lemma skipBlanks_cons {c : Char} (h : isBlank c = false) (r : Text) :
    skipBlanks (c :: r) = c :: r := by
  simp [skipBlanks, h]

lemma skipBlanks_append_cons {blanks : Text} (h : Blanks blanks) {c : Char} (hc : isBlank c = false)
    (r : Text) : skipBlanks (blanks ++ c :: r) = c :: r := by
  rw [skipBlanks_append h, skipBlanks_cons hc]

lemma skipBlanks_of_blanks {blanks : Text} (h : Blanks blanks) : skipBlanks blanks = [] := by
  have hend := skipBlanks_append h []
  rwa [List.append_nil] at hend

lemma isBlank_head_skipBlanks {t r : Text} {c : Char} (h : skipBlanks t = c :: r) :
    isBlank c = false := by
  have hhead := List.head?_dropWhile_not isBlank t
  rw [show t.dropWhile isBlank = c :: r from h] at hhead
  exact hhead

@[simp] lemma skipBlanks_skipBlanks (t : Text) : skipBlanks (skipBlanks t) = skipBlanks t := by
  cases h : skipBlanks t with
  | nil => rfl
  | cons c r => exact skipBlanks_cons (isBlank_head_skipBlanks h) r

/-- A part of JSON text, with the blanks around it. -/
structure Padded where
  before : Text
  core : Text
  after : Text
  blanks_before : Blanks before := by decide
  blanks_after : Blanks after := by decide

def Padded.text (p : Padded) : Text := p.before ++ (p.core ++ p.after)

lemma Padded.text_append (p : Padded) (t : Text) :
    p.text ++ t = p.before ++ (p.core ++ (p.after ++ t)) := by
  rw [text, List.append_assoc, List.append_assoc]

/-- A part with no blanks around it. -/
def Padded.bare (core : Text) : Padded := .mk [] core []

@[simp] lemma Padded.text_bare (core : Text) : (bare core).text = core := List.append_nil core

/-- A value inside a bracket, with what stands in front of it there. -/
structure Entry where
  lead : Text
  value : Padded

def Entry.text (e : Entry) : Text := e.lead ++ e.value.text

def Bracket.opening : Bracket → Char
  | list => '['
  | object => '\x7b'

/-- All but the first text of a list have the separator in front. -/
lemma separatedBy_cons (separator t : Text) (more : List Text) :
    Text.separatedBy separator (t :: more) = t ++ more.flatMap (separator ++ ·) := by
  induction more generalizing t with
  | nil => simp [Text.separatedBy]
  | cons next others ih => simp [Text.separatedBy, ih]

/-- The entries between two brackets, with commas between them. Where there are none, there may still be
blanks. -/
def Bracket.group (bracket : Bracket) (blanks : Text) (entries : List Entry) : Text :=
  bracket.opening ::
    (blanks ++ (Text.separatedBy [','] (entries.map Entry.text) ++ [bracket.closing]))

/-- What follows the first entry of a group: the others, each behind a comma, and the end. -/
def Bracket.remainder (bracket : Bracket) (others : List Entry) (rest : Text) : Text :=
  others.flatMap (fun e => ',' :: e.text) ++ bracket.closing :: rest

lemma Bracket.group_nil_append (bracket : Bracket) (blanks rest : Text) :
    bracket.group blanks [] ++ rest = bracket.opening :: (blanks ++ bracket.closing :: rest) := by
  simp [group, Text.separatedBy]

lemma Bracket.group_cons_append (bracket : Bracket) (blanks : Text) (e : Entry) (others : List Entry)
    (rest : Text) :
    bracket.group blanks (e :: others) ++ rest =
      bracket.opening :: (blanks ++ (e.text ++ bracket.remainder others rest)) := by
  simp [group, remainder, separatedBy_cons, List.flatMap_map]

lemma Bracket.remainder_cons (bracket : Bracket) (e : Entry) (others : List Entry) (rest : Text) :
    bracket.remainder (e :: others) rest = ',' :: (e.text ++ bracket.remainder others rest) := by
  simp [remainder]

/-- One digit at least. -/
def Digits (t : Text) : Prop := t ≠ [] ∧ ∀ c ∈ t, c.isDigit = true

instance (t : Text) : Decidable (Digits t) :=
  inferInstanceAs (Decidable (t ≠ [] ∧ ∀ c ∈ t, c.isDigit = true))

/-- The digits in front of the point. Only zero itself begins with a zero. -/
def Whole (t : Text) : Prop := Digits t ∧ (t.head? = some '0' → t = ['0'])

instance (t : Text) : Decidable (Whole t) :=
  inferInstanceAs (Decidable (Digits t ∧ (t.head? = some '0' → t = ['0'])))

inductive Fraction : Text → Prop
  | none : Fraction []
  | some {digits : Text} (h : Digits digits) : Fraction ('.' :: digits)

inductive Exponent : Text → Prop
  | none : Exponent []
  | some {mark : Char} {sign digits : Text} (marked : mark = 'e' ∨ mark = 'E')
    (signed : sign = [] ∨ sign = ['+'] ∨ sign = ['-']) (h : Digits digits) :
    Exponent (mark :: (sign ++ digits))

inductive Number : Text → Prop
  | mk {sign whole fraction exponent : Text} (signed : sign = [] ∨ sign = ['-']) (w : Whole whole)
    (f : Fraction fraction) (e : Exponent exponent) :
    Number (sign ++ (whole ++ (fraction ++ exponent)))

/-- One character between the quotes of a string, or an escape. Its four digits need not be the number of
a character. -/
inductive Character : Text → Prop
  | plain {c : Char} (quote : c ≠ '"') (backslash : c ≠ '\\') (control : ' ' ≤ c) : Character [c]
  | letter {e : Char} (h : e ∈ "\"\\/bfnrt".toList) : Character ['\\', e]
  | number {digits : Text} (four : digits.length = 4)
    (hex : ∀ d ∈ digits, (hexDigit? d).isSome = true) : Character ('\\' :: 'u' :: digits)

inductive IsString : Text → Prop
  | mk {parts : List Text} (h : ∀ part ∈ parts, Character part) :
    IsString ('"' :: (parts.flatten ++ ['"']))

/-- In front of a value in an object stand the name of the member and a colon. -/
inductive Lead : Bracket → Text → Prop
  | list : Lead .list []
  | object {name : Padded} (h : IsString name.core) : Lead .object (name.text ++ [':'])

/-- A value, without blanks around it. -/
inductive Value : Text → Prop
  | word {t : Text} (h : t ∈ ["null".toList, "true".toList, "false".toList]) : Value t
  | number {t : Text} (h : Number t) : Value t
  | string {t : Text} (h : IsString t) : Value t
  | group (bracket : Bracket) {blanks : Text} {entries : List Entry} (h : Blanks blanks)
    (leads : ∀ e ∈ entries, Lead bracket e.lead) (values : ∀ e ∈ entries, Value e.value.core) :
    Value (bracket.group blanks entries)

end Json
end TreeDump
