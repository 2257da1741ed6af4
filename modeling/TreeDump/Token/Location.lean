import TreeDump.Text.Basic

/-! Source locations: a file, a line and a column, with colons between them. -/
namespace TreeDump

/-- A source location. Its numbers are kept as they were written. -/
structure Location where
  file : Text
  line : Text
  column : Text
  deriving DecidableEq, Repr

namespace Location

def text (l : Location) : Text := l.file ++ ':' :: (l.line ++ ':' :: l.column)

/-- Characters of the file part. It may be empty. -/
def isFileChar (c : Char) : Bool := !(c == ':' || c == '(' || c == ')')

/-- Whether a location stands at the start of a text. Digits are those of ASCII. -/
def starts (t : Text) : Bool :=
  match t.dropWhile isFileChar with
  | ':' :: d :: r =>
    d.isDigit && match r.dropWhile Char.isDigit with
      | ':' :: e :: _ => e.isDigit
      | _ => false
  | _ => false

/-- The run of digits after a colon at the start of a text, and what follows the run. -/
def readNumber? : Text → Option (Text × Text)
  | ':' :: r =>
    match r.takeWhile Char.isDigit with
    | [] => none
    | digits => some (digits, r.dropWhile Char.isDigit)
  | _ => none

/-- The location at the start of a text, and what follows it. The file part ends at the first colon,
the column takes all the digits that there are. -/
def read? (t : Text) : Option (Location × Text) := do
  let (line, r) ← readNumber? (t.dropWhile isFileChar)
  let (column, rest) ← readNumber? r
  return (⟨t.takeWhile isFileChar, line, column⟩, rest)

theorem read?_isSome (t : Text) : (read? t).isSome = starts t := by
  unfold read? starts
  cases hf : t.dropWhile isFileChar with
  | nil => rfl
  | cons c r =>
    by_cases hc : c = ':'
    · subst hc
      cases r with
      | nil => rfl
      | cons d s =>
        by_cases hd : d.isDigit = true
        · cases hl : s.dropWhile Char.isDigit with
          | nil => simp [readNumber?, hd, hl]
          | cons e q =>
            by_cases he : e = ':'
            · subst he
              cases q with
              | nil => simp [readNumber?, hd, hl]
              | cons f p => by_cases hp : f.isDigit = true <;> simp [readNumber?, hd, hl, hp]
            · simp [readNumber?, hd, hl, he]
        · simp [readNumber?, hd]
    · simp [readNumber?, hc]

theorem append_of_readNumber? {t digits rest : Text} (h : readNumber? t = some (digits, rest)) :
    ':' :: (digits ++ rest) = t ∧ digits ≠ [] := by
  unfold readNumber? at h
  split at h
  · next r =>
    split at h
    · cases h
    · next digits' hne =>
      cases h
      refine ⟨?_, fun hn => hne hn⟩
      rw [List.takeWhile_append_dropWhile]
  · cases h

/-- A reading takes the written location off the front of the text. -/
theorem text_append_of_read? {t rest : Text} {l : Location} (h : read? t = some (l, rest)) :
    l.text ++ rest = t := by
  simp only [read?, Option.bind_eq_bind, Option.bind_eq_some_iff, Prod.exists] at h
  obtain ⟨line, r, hline, column, rest', hcolumn, he⟩ := h
  cases he
  have h1 := (append_of_readNumber? hline).1
  have h2 := (append_of_readNumber? hcolumn).1
  have h3 := List.takeWhile_append_dropWhile (p := isFileChar) (l := t)
  rw [← h1, ← h2] at h3
  simpa [text] using h3

end Location
end TreeDump
