import TreeDump.Reader.Read

/-! What can be asked of a reader, and runs of such requests. Every answer comes with the place and
the depth at which the reader then stands. A drain reads on, by a list of kinds in order of preference,
for as long as any of them can be read. -/
namespace TreeDump

/-- Something asked of a reader. -/
inductive Request where
  /-- Whether such a token stands at the cursor. -/
  | canRead (asked : Kind)
  /-- To read such a token. -/
  | read (asked : Kind)
  /-- The error for a caller that can read nothing here. -/
  | unrecognized
  /-- The text after the cursor. -/
  | remaining
  /-- Whether nothing but a gap is left. -/
  | isEmpty
  /-- Only where the reader stands. -/
  | look
  deriving DecidableEq, Repr

inductive Answer where
  | truth (holds : Bool)
  | token (asked : Kind) (result : Except Error Token)
  | error (e : Error)
  | text (t : Text)
  | done

structure Mark where
  place : Place
  depth : Int
  deriving DecidableEq, Repr

/-- An answer with where the reader stands after it. -/
structure Response where
  answer : Answer
  mark : Mark

structure DrainStep where
  asked : Kind
  result : Except Error Token
  mark : Mark

namespace Reader

def mark (r : Reader) : Mark := ⟨r.place, r.depth⟩

def meet (r : Reader) : Request → Reply Answer
  | .canRead asked => ⟨.truth (r.canRead asked).1, (r.canRead asked).2, []⟩
  | .read asked =>
    let reply := r.read asked
    ⟨.token asked reply.answer, reply.reader, reply.events⟩
  | .unrecognized => ⟨.error r.unrecognized.1, r.unrecognized.2, []⟩
  | .remaining => ⟨.text r.remaining, r, []⟩
  | .isEmpty => ⟨.truth r.isEmpty, r, []⟩
  | .look => ⟨.done, r, []⟩

def run (r : Reader) : List Request → Reply (List Response)
  | [] => ⟨[], r, []⟩
  | request :: more =>
    let first := r.meet request
    let others := first.reader.run more
    ⟨⟨first.answer, first.reader.mark⟩ :: others.answer, others.reader,
      first.events ++ others.events⟩

@[simp] theorem run_nil (r : Reader) : r.run [] = ⟨[], r, []⟩ := rfl

@[simp] theorem dump_meet (r : Reader) (request : Request) :
    (r.meet request).reader.dump = r.dump := by
  cases request with
  | canRead asked => exact dump_skipGap r
  | read asked => exact dump_read asked r
  | unrecognized => exact dump_skipGap r
  | remaining => rfl
  | isEmpty => rfl
  | look => rfl

@[simp] theorem dump_run (r : Reader) (requests : List Request) :
    (r.run requests).reader.dump = r.dump := by
  induction requests generalizing r with
  | nil => rfl
  | cons request more ih => exact (ih (r.meet request).reader).trans (dump_meet r request)

/-- Tries the kinds in `pending`, and begins again with all of `kinds` after each success. A kind
that stands at the cursor and cannot be read all the same is passed over. -/
def drainFrom (kinds pending : List Kind) (r : Reader) : Reply (List DrainStep) :=
  match pending with
  | [] => ⟨[], r, []⟩
  | asked :: more =>
    let s := (r.canRead asked).2
    if (r.canRead asked).1 then
      let reply := s.read asked
      let pass := match reply.answer with
        | .ok _ => kinds
        | .error _ => more
      let others := drainFrom kinds pass reply.reader
      ⟨⟨asked, reply.answer, reply.reader.mark⟩ :: others.answer, others.reader,
        reply.events ++ others.events⟩
    else drainFrom kinds more s
termination_by (r.remaining.length, pending.length)
decreasing_by
  · have hs := length_remaining_canRead_le asked r
    split
    · next token h =>
      exact Prod.Lex.left _ _ (Nat.lt_of_lt_of_le (length_remaining_read_lt h) hs)
    · exact Prod.Lex.right' _ (Nat.le_trans (length_remaining_read_le asked _) hs) (by simp)
  · exact Prod.Lex.right' _ (length_remaining_canRead_le asked r) (by simp)

/-- Reads tokens of the given kinds for as long as any of them can be read. -/
def drain (kinds : List Kind) (r : Reader) : Reply (List DrainStep) := r.drainFrom kinds kinds

end Reader
end TreeDump
