/-! Texts as lists of characters, measured in characters and in UTF-8 bytes, with the two kinds of white
space that a text can have, and numbers as they are written in messages. -/
namespace TreeDump
/-- A text is the list of its characters. A character is a Unicode scalar value, so every text has
a UTF-8 form and every position between two characters lies on a byte boundary of it. -/
abbrev Text := List Char

namespace Text

def utf8Size : Text → Nat
  | [] => 0
  | c :: r => c.utf8Size + utf8Size r

@[simp] theorem utf8Size_nil : utf8Size [] = 0 := rfl

@[simp] theorem utf8Size_cons (c : Char) (r : Text) :
    utf8Size (c :: r) = c.utf8Size + utf8Size r := rfl

@[simp] theorem utf8Size_append (s t : Text) : utf8Size (s ++ t) = utf8Size s + utf8Size t := by
  induction s with
  | nil => simp
  | cons c r ih => simp [ih, Nat.add_assoc]

theorem length_le_utf8Size (t : Text) : t.length ≤ utf8Size t := by
  induction t with
  | nil => simp
  | cons c r ih =>
    have hc := c.utf8Size_pos
    simp only [List.length_cons, utf8Size_cons]
    omega

/-- Number of characters that an error quotes of the text it points at. -/
def previewLength : Nat := 32

/-- The start of a text, as errors quote it. -/
def preview (t : Text) : Text := t.take previewLength

def startsWith (c : Char) (t : Text) : Bool := t.head? == some c

def separatedBy (separator : Text) : List Text → Text
  | [] => []
  | [t] => t
  | t :: more => t ++ separator ++ separatedBy separator more

def ofBool (b : Bool) : Text := if b then "true".toList else "false".toList

/-! White space: blanks, which end a run of name characters, and the narrower gap characters, which
separate tokens and are skipped. -/

/-- Inclusive ranges of the code points with the Unicode property White_Space. -/
def blankRanges : List (Nat × Nat) :=
  [(0x09, 0x0D), (0x20, 0x20), (0x85, 0x85), (0xA0, 0xA0), (0x1680, 0x1680), (0x2000, 0x200A),
   (0x2028, 0x2029), (0x202F, 0x202F), (0x205F, 0x205F), (0x3000, 0x3000)]

def inRanges (ranges : List (Nat × Nat)) (n : Nat) : Bool :=
  ranges.any fun range => range.1 ≤ n && n ≤ range.2

/-- Whether a character is white space in the sense of Unicode. -/
def isBlank (c : Char) : Bool := inRanges blankRanges c.toNat

/-- Whether a character separates tokens. Tabs, carriage returns and the other blanks do not. -/
def isGap (c : Char) : Bool := c == ' ' || c == '\n'

theorem isGap_iff (c : Char) : isGap c = true ↔ c = ' ' ∨ c = '\n' := by
  simp [isGap]

theorem isBlank_of_isGap (c : Char) (h : isGap c = true) : isBlank c = true := by
  rcases (isGap_iff c).1 h with rfl | rfl <;> decide

def gap (t : Text) : Text := t.takeWhile isGap

def skipGap (t : Text) : Text := t.dropWhile isGap

@[simp] theorem gap_append_skipGap (t : Text) : gap t ++ skipGap t = t :=
  List.takeWhile_append_dropWhile

theorem length_skipGap_le (t : Text) : (skipGap t).length ≤ t.length :=
  (List.dropWhile_sublist isGap).length_le

/-- What is left after a gap starts with no gap character. -/
theorem isGap_head_skipGap (t : Text) (c : Char) (r : Text) (h : skipGap t = c :: r) :
    isGap c = false := by
  have hd := List.head?_dropWhile_not isGap t
  rw [show List.dropWhile isGap t = c :: r from h] at hd
  exact hd

/-! Numerals: decimal, without leading zeros, and lower-case hexadecimal for code points. -/

def decimal (n : Nat) : Text := Nat.toDigits 10 n

/-- An integer in decimal, with a minus sign before a negative one. -/
def signedDecimal : Int → Text
  | .ofNat n => decimal n
  | .negSucc n => '-' :: decimal (n + 1)

def hexadecimal (n : Nat) : Text := Nat.toDigits 16 n

theorem decimal_inj {m n : Nat} : decimal m = decimal n ↔ m = n := by
  constructor
  · intro h
    have hm := Nat.ofDigitChars_toDigits (n := m) (show 1 < 10 by decide) (Nat.le_refl 10)
    have hn := Nat.ofDigitChars_toDigits (n := n) (show 1 < 10 by decide) (Nat.le_refl 10)
    rw [← hm, ← hn]
    exact congrArg (Nat.ofDigitChars 10 · 0) h
  · exact congrArg decimal

theorem isDigit_of_mem_decimal {n : Nat} {c : Char} (h : c ∈ decimal n) : c.isDigit = true :=
  Nat.isDigit_of_mem_toDigits (by decide) (Nat.le_refl 10) h

end Text

end TreeDump
