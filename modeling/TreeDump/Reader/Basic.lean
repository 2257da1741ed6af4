import TreeDump.Journal
import TreeDump.Text.Place

/-! A reader over one dump: the text before its cursor, the text after it, and what it keeps count
of. Gaps are skipped only when something is asked or read, and never twice at one cursor. -/
namespace TreeDump

structure Reader where
  /-- The part of the dump before the cursor. -/
  consumed : Text
  /-- The part of the dump after the cursor. -/
  remaining : Text
  /-- Groups opened less groups closed. -/
  depth : Int
  /-- Whether the gap at the cursor has been skipped. -/
  trimmed : Bool
  keys : KeyTable
  sink : Option Sink
  deriving DecidableEq, Repr

namespace Reader

def ofText (dump : Text) (keys : KeyTable) (sink : Option Sink) : Reader :=
  ⟨[], dump, 0, false, keys, sink⟩

def dump (r : Reader) : Text := r.consumed ++ r.remaining

def place (r : Reader) : Place := Place.start.after r.consumed

def offset (r : Reader) : Nat := Text.utf8Size r.consumed

@[simp] theorem offset_place (r : Reader) : r.place.offset = r.offset := by
  simp [place, offset, Place.start]

/-- The text after the cursor, as errors quote it. -/
def found (r : Reader) : Text := Text.preview r.remaining

/-- Whether nothing but a gap is left. -/
def isEmpty (r : Reader) : Bool := (Text.skipGap r.remaining).isEmpty

/-- Skips the gap at the cursor, unless this has been done. -/
def skipGap (r : Reader) : Reader :=
  if r.trimmed then r
  else
    { r with
      consumed := r.consumed ++ Text.gap r.remaining
      remaining := Text.skipGap r.remaining
      trimmed := true }

@[simp] theorem dump_skipGap (r : Reader) : r.skipGap.dump = r.dump := by
  unfold skipGap
  split
  · rfl
  · simp [dump]

@[simp] theorem trimmed_skipGap (r : Reader) : r.skipGap.trimmed = true := by
  unfold skipGap
  split <;> simp_all

@[simp] theorem skipGap_skipGap (r : Reader) : r.skipGap.skipGap = r.skipGap := by
  generalize hs : r.skipGap = s
  have ht : s.trimmed = true := by rw [← hs]; exact trimmed_skipGap r
  simp [skipGap, ht]

theorem length_remaining_skipGap_le (r : Reader) :
    r.skipGap.remaining.length ≤ r.remaining.length := by
  unfold skipGap
  split
  · exact Nat.le_refl _
  · exact Text.length_skipGap_le r.remaining

/-- Ends the dump: only a gap may be left, and every group must be closed. -/
def finish (r : Reader) : Except Error Unit :=
  let s := r.skipGap
  if s.remaining ≠ [] then .error (.trailingInput s.offset s.found)
  else if s.depth ≠ 0 then .error (.unbalancedNesting s.depth)
  else .ok ()

/-- The error that a caller reports when it can read nothing here. -/
def unrecognized (r : Reader) : Error × Reader :=
  let s := r.skipGap
  (.noRecognizedToken s.place s.found, s)

/-- The state of a reader in one line of text, for debugging: the text after its cursor, its offset, its
depth, whether the gap has been skipped, its table of keys, and whether a sink is attached. -/
def describe (r : Reader) : Text :=
  "TokenReader \x7b remaining: ".toList ++ Text.quoted r.remaining ++
    ", pos: ".toList ++ Text.decimal r.offset ++
    ", depth: ".toList ++ Text.signedDecimal r.depth ++
    ", trimmed: ".toList ++ Text.ofBool r.trimmed ++
    ", keys: ".toList ++ r.keys.describe ++
    ", sink: ".toList ++ Text.ofBool r.sink.isSome ++ " \x7d".toList

end Reader
end TreeDump
