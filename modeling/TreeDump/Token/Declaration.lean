import TreeDump.Text.Basic
import TreeDump.Token.Location

/-! Declarations: a name and the location where it is declared, joined by an at sign. -/
namespace TreeDump

/-- A declared name with its location. A gap may stand between the at sign and the location. -/
structure Declaration where
  name : Text
  gap : Text
  place : Location
  deriving DecidableEq, Repr

namespace Declaration

def text (d : Declaration) : Text := d.name ++ '@' :: (d.gap ++ d.place.text)

/-- The declaration without the gap, which means nothing. -/
def canonical (d : Declaration) : Text := d.name ++ '@' :: d.place.text

/-- Characters of a declared name after its first, which is any but an opening parenthesis. -/
def isTailChar (c : Char) : Bool := !(c == '@' || Text.isBlank c)

/-- Whether a name with an at sign after it stands at the start of a text. -/
def starts : Text → Bool
  | [] => false
  | c :: r => c != '(' && (r.dropWhile isTailChar).head? == some '@'

/-- The name in front of the first at sign that can end it, and what follows that sign. -/
def readName? : Text → Option (Text × Text)
  | [] => none
  | c :: r =>
    if c = '(' then none
    else match r.dropWhile isTailChar with
      | '@' :: rest => some (c :: r.takeWhile isTailChar, rest)
      | _ => none

def read? (t : Text) : Option (Declaration × Text) := do
  let (name, r) ← readName? t
  let (place, rest) ← Location.read? (Text.skipGap r)
  return (⟨name, Text.gap r, place⟩, rest)

theorem readName?_isSome (t : Text) : (readName? t).isSome = starts t := by
  cases t with
  | nil => rfl
  | cons c r =>
    by_cases hc : c = '('
    · simp [readName?, starts, hc]
    · cases hd : r.dropWhile isTailChar with
      | nil => simp [readName?, starts, hc, hd]
      | cons d rest =>
        by_cases ha : d = '@'
        · simp [readName?, starts, hc, hd, ha]
        · simp [readName?, starts, hc, hd, ha]

theorem append_of_readName? {t name rest : Text} (h : readName? t = some (name, rest)) :
    name ++ '@' :: rest = t ∧ name ≠ [] := by
  cases t with
  | nil => cases h
  | cons c r =>
    simp only [readName?] at h
    split at h
    · cases h
    · split at h
      · next last hd =>
        cases h
        refine ⟨?_, List.cons_ne_nil _ _⟩
        rw [List.cons_append, ← hd, List.takeWhile_append_dropWhile]
      · cases h

/-- A reading takes the written declaration off the front of the text. -/
theorem text_append_of_read? {t rest : Text} {d : Declaration} (h : read? t = some (d, rest)) :
    d.text ++ rest = t := by
  simp only [read?, Option.bind_eq_bind, Option.bind_eq_some_iff, Prod.exists] at h
  obtain ⟨name, r, hname, place, rest', hplace, he⟩ := h
  cases he
  have h1 := (append_of_readName? hname).1
  have h2 := Location.text_append_of_read? hplace
  have h3 := Text.gap_append_skipGap r
  rw [← h2] at h3
  simp [text, h3, h1]

end Declaration
end TreeDump
