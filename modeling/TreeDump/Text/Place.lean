import TreeDump.Text.Basic

/-! Places in a text. A place is found by walking over what precedes it, so places compose: the
place after two texts is the place after the second, counted from the place after the first. -/
namespace TreeDump

/-- A place in a text: its offset in bytes of UTF-8, and its line and column, counted from one,
the column in characters. -/
structure Place where
  offset : Nat
  line : Nat
  column : Nat
  deriving DecidableEq, Repr

namespace Place

def start : Place := ⟨0, 1, 1⟩

/-- The place after one more character. Only a newline begins a line. -/
def step (p : Place) (c : Char) : Place :=
  if c = '\n' then ⟨p.offset + c.utf8Size, p.line + 1, 1⟩
  else ⟨p.offset + c.utf8Size, p.line, p.column + 1⟩

def after (p : Place) (t : Text) : Place := t.foldl step p

@[simp] theorem after_nil (p : Place) : p.after [] = p := rfl

@[simp] theorem after_cons (p : Place) (c : Char) (r : Text) :
    p.after (c :: r) = (p.step c).after r := rfl

@[simp] theorem after_append (p : Place) (s t : Text) :
    p.after (s ++ t) = (p.after s).after t := by
  simp [after, List.foldl_append]

@[simp] theorem offset_step (p : Place) (c : Char) :
    (p.step c).offset = p.offset + c.utf8Size := by
  unfold step
  split <;> rfl

@[simp] theorem offset_after (p : Place) (t : Text) :
    (p.after t).offset = p.offset + Text.utf8Size t := by
  induction t generalizing p with
  | nil => simp
  | cons c r ih => simp [ih, Nat.add_assoc]

@[simp] theorem line_after (p : Place) (t : Text) :
    (p.after t).line = p.line + t.count '\n' := by
  induction t generalizing p with
  | nil => simp
  | cons c r ih =>
    by_cases hc : c = '\n'
    · simp [ih, step, hc]; omega
    · simp [ih, step, hc]

end Place
end TreeDump
