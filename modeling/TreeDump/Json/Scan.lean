import TreeDump.Json.Fault

/-! The parts of JSON text that are the same everywhere: blanks, fixed words and strings. A scanner
takes the text that is left and gives what it found together with the text after it. Strings are
written as well. -/
namespace TreeDump
namespace Json

/-- The characters that may stand between the parts of JSON text. -/
def isBlank (c : Char) : Bool := c == ' ' || c == '\t' || c == '\n' || c == '\r'

def skipBlanks (t : Text) : Text := t.dropWhile isBlank

theorem length_skipBlanks_le (t : Text) : (skipBlanks t).length ≤ t.length :=
  (List.dropWhile_sublist isBlank).length_le

def scanWord : Text → Text → Except Fault Text
  | [], t => .ok t
  | _ :: _, [] => .error (.atEnd .endInValue)
  | w :: word, c :: r => if c = w then scanWord word r else .error (.peeking .expectedWord (c :: r))

def scanColon (t : Text) : Except Fault Text :=
  match skipBlanks t with
  | [] => .error (.atEnd .endInObject)
  | c :: r => if c = ':' then .ok r else .error (.peeking .expectedColon (c :: r))

def hexDigit? (c : Char) : Option Nat :=
  if '0' ≤ c ∧ c ≤ '9' then some (c.toNat - '0'.toNat)
  else if 'a' ≤ c ∧ c ≤ 'f' then some (c.toNat - 'a'.toNat + 10)
  else if 'A' ≤ c ∧ c ≤ 'F' then some (c.toNat - 'A'.toNat + 10)
  else none

/-- The value of hexadecimal digits, the first the most significant. -/
def hexValue? (digits : Text) : Option Nat :=
  digits.foldl (fun value c => do return 16 * (← value) + (← hexDigit? c)) (some 0)

/-- The value of the four hexadecimal digits at the start of a text. They are looked for in its first
four bytes. -/
def scanHex (t : Text) : Except Fault Nat :=
  if Text.utf8Size t < 4 then .error (.atEnd .endInString)
  else match hexValue? (t.take 4) with
    | some value => .ok value
    | none => .error ⟨.invalidEscape, Text.utf8Size t - 4⟩

/-- Units that begin a pair for one character. -/
def isLeading (unit : Nat) : Bool := 0xD800 ≤ unit && unit ≤ 0xDBFF

def isTrailing (unit : Nat) : Bool := 0xDC00 ≤ unit && unit ≤ 0xDFFF

def pairValue (leading trailing : Nat) : Nat :=
  0x10000 + (leading - 0xD800) * 0x400 + (trailing - 0xDC00)

/-- The unit that ends a pair, escaped after the unit that begins it. -/
def scanTrailing (t : Text) : Except Fault Nat :=
  match t with
  | [] => .error (.atEnd .endInString)
  | '\\' :: [] => .error (.atEnd .endInString)
  | '\\' :: 'u' :: h => do
    let unit ← scanHex h
    if isTrailing unit then return unit else .error (.before .loneSurrogate (h.drop 4))
  | '\\' :: r => .error (.peeking .unpairedSurrogate r)
  | r => .error (.peeking .unpairedSurrogate r)

/-- A character escaped by its number, where the text begins with the digits of the number, and the
count of characters that the escape takes. -/
def scanUnicode (t : Text) : Except Fault (Char × Nat) := do
  let unit ← scanHex t
  if isTrailing unit then .error (.before .loneSurrogate (t.drop 4))
  else if isLeading unit then
    let trailing ← scanTrailing (t.drop 4)
    return (Char.ofNat (pairValue unit trailing), 10)
  else return (Char.ofNat unit, 4)

/-- The character that a letter after a backslash stands for. -/
def escaped? : Char → Option Char
  | '"' => some '"'
  | '\\' => some '\\'
  | '/' => some '/'
  | 'b' => some '\x08'
  | 'f' => some '\x0c'
  | 'n' => some '\n'
  | 'r' => some '\r'
  | 't' => some '\t'
  | _ => none

/-- The character of an escape, where the text begins after the backslash, and the count of
characters that the escape takes. -/
def scanEscape (t : Text) : Except Fault (Char × Nat) :=
  match t with
  | [] => .error (.atEnd .endInString)
  | 'u' :: r => do
    let (c, taken) ← scanUnicode r
    return (c, taken + 1)
  | e :: r =>
    match escaped? e with
    | some c => .ok (c, 1)
    | none => .error (.peeking .invalidEscape (e :: r))

def isControl (c : Char) : Bool := c < ' '

/-- Scans a string after its opening quote, where the first `taken` characters have been accounted
for by an escape. -/
def scanString (taken : Nat) (t : Text) : Except Fault (Text × Text) :=
  match taken, t with
  | _, [] => .error (.atEnd .endInString)
  | taken + 1, _ :: r => scanString taken r
  | 0, c :: r =>
    if c = '"' then .ok ([], r)
    else if c = '\\' then
      match scanEscape r with
      | .error f => .error f
      | .ok (e, n) =>
        match scanString n r with
        | .error f => .error f
        | .ok (s, rest) => .ok (e :: s, rest)
    else if isControl c then .error (.before .controlCharacter r)
    else
      match scanString 0 r with
      | .error f => .error f
      | .ok (s, rest) => .ok (c :: s, rest)

/-- The count of characters that an escape takes, where the text begins after the backslash and
nobody needs the character. Any four digits will do. -/
def skipEscape (t : Text) : Except Fault Nat :=
  match t with
  | [] => .error (.atEnd .endInString)
  | 'u' :: r => do
    let _ ← scanHex r
    return 5
  | e :: r =>
    match escaped? e with
    | some _ => .ok 1
    | none => .error (.peeking .invalidEscape (e :: r))

/-- Skips a string after its opening quote, where the first `taken` characters have been accounted
for by an escape. A character that must be escaped is noticed before it is passed, where
`scanString` notices it after. -/
def skipString (taken : Nat) (t : Text) : Except Fault Text :=
  match taken, t with
  | _, [] => .error (.atEnd .endInString)
  | taken + 1, _ :: r => skipString taken r
  | 0, c :: r =>
    if c = '"' then .ok r
    else if c = '\\' then
      match skipEscape r with
      | .error f => .error f
      | .ok n => skipString n r
    else if isControl c then .error (.before .controlCharacter (c :: r))
    else skipString 0 r

theorem append_of_scanWord {word t rest : Text} (h : scanWord word t = .ok rest) :
    word ++ rest = t := by
  induction word generalizing t with
  | nil => cases h; rfl
  | cons w word ih =>
    cases t with
    | nil => cases h
    | cons c r =>
      simp only [scanWord] at h
      split at h
      · next hc => rw [List.cons_append, ih h, hc]
      · cases h

theorem length_le_of_scanColon {t rest : Text} (h : scanColon t = .ok rest) :
    rest.length ≤ t.length := by
  have hb := length_skipBlanks_le t
  unfold scanColon at h
  split at h
  · cases h
  · next c r hc =>
    rw [hc, List.length_cons] at hb
    split at h
    · cases h; omega
    · cases h

theorem length_lt_of_scanString {taken : Nat} {t s rest : Text}
    (h : scanString taken t = .ok (s, rest)) : rest.length < t.length := by
  induction t generalizing taken s with
  | nil => cases taken <;> cases h
  | cons c r ih =>
    cases taken with
    | succ taken =>
      have hl := ih (by simpa [scanString] using h)
      simp only [List.length_cons]
      omega
    | zero =>
      simp only [List.length_cons]
      unfold scanString at h
      split at h
      · cases h; omega
      · split at h
        · split at h
          · cases h
          · split at h
            · cases h
            · next hs => cases h; have hl := ih hs; omega
        · split at h
          · cases h
          · split at h
            · cases h
            · next hs => cases h; have hl := ih hs; omega

theorem length_lt_of_skipString {taken : Nat} {t rest : Text}
    (h : skipString taken t = .ok rest) : rest.length < t.length := by
  induction t generalizing taken with
  | nil => cases taken <;> cases h
  | cons c r ih =>
    cases taken with
    | succ taken =>
      have hl := ih (by simpa [skipString] using h)
      simp only [List.length_cons]
      omega
    | zero =>
      simp only [List.length_cons]
      unfold skipString at h
      split at h
      · cases h; omega
      · split at h
        · split at h
          · cases h
          · have hl := ih h; omega
        · split at h
          · cases h
          · have hl := ih h; omega

/-! Writing: strings and lists of strings, without blanks. -/

/-- The letter that stands after a backslash for a character that has a short escape. -/
def shortEscape? : Char → Option Char
  | '"' => some '"'
  | '\\' => some '\\'
  | '\x08' => some 'b'
  | '\x0c' => some 'f'
  | '\n' => some 'n'
  | '\r' => some 'r'
  | '\t' => some 't'
  | _ => none

def fourDigits (n : Nat) : Text :=
  let digits := Text.hexadecimal n
  List.replicate (4 - digits.length) '0' ++ digits

/-- A character inside a string. Only what JSON does not allow there is escaped. -/
def writeChar (c : Char) : Text :=
  match shortEscape? c with
  | some letter => ['\\', letter]
  | none => if c < ' ' then '\\' :: 'u' :: fourDigits c.toNat else [c]

def writeString (t : Text) : Text := '"' :: (t.flatMap writeChar ++ ['"'])

def writeStrings (strings : List Text) : Text :=
  '[' :: (Text.separatedBy [','] (strings.map writeString) ++ [']'])

end Json
end TreeDump
