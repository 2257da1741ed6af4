import TreeDump.Proofs.Reader.Step

/-! The flag of a reader only saves it work. A reader without one, which looks for a gap at its cursor
whenever something is asked of it, gives the same answers and goes the same way. -/
namespace TreeDump

/-- A reader that keeps no account of the gaps that it has skipped. -/
structure EagerReader where
  /-- The part of the dump before the cursor. -/
  consumed : Text
  /-- The part of the dump after the cursor. -/
  remaining : Text
  /-- Groups opened less groups closed. -/
  depth : Int
  keys : KeyTable
  sink : Option Sink
  deriving DecidableEq, Repr

/-- What an operation on such a reader gives. -/
structure EagerReply (α : Type) where
  answer : α
  reader : EagerReader
  events : List Event

namespace EagerReader

def ofText (dump : Text) (keys : KeyTable) (sink : Option Sink) : EagerReader :=
  ⟨[], dump, 0, keys, sink⟩

def place (r : EagerReader) : Place := Place.start.after r.consumed

def offset (r : EagerReader) : Nat := Text.utf8Size r.consumed

def found (r : EagerReader) : Text := Text.preview r.remaining

def mark (r : EagerReader) : Mark := ⟨r.place, r.depth⟩

/-- Skips the gap at the cursor, be there one or not. -/
def skipGap (r : EagerReader) : EagerReader :=
  { r with
    consumed := r.consumed ++ Text.gap r.remaining
    remaining := Text.skipGap r.remaining }

def accept (token : Token) (rest : Text) (r : EagerReader) : EagerReader :=
  { r with
    consumed := r.consumed ++ token.text
    remaining := rest
    depth := r.depth + token.depthChange
    sink := r.sink.map (Sink.record token) }

def closeEvents (token : Token) (r : EagerReader) : List Event :=
  if token = .closeParen ∧ r.depth < 0 then [.unopenedClose r.depth r.offset] else []

def acceptEvents (token : Token) (rest : Text) (r : EagerReader) : List Event :=
  .consumed token r.offset :: ((r.sink.map (Sink.events token)).getD [] ++
    closeEvents token (r.accept token rest))

def read (asked : Kind) (r : EagerReader) : EagerReply (Except Error Token) :=
  let s := r.skipGap
  match Token.read? s.keys s.remaining asked with
  | some (token, rest) => ⟨.ok token, s.accept token rest, s.acceptEvents token rest⟩
  | none => ⟨.error (.contractViolation asked s.place s.found), s, [.missingToken asked s.offset]⟩

def meet (r : EagerReader) : Request → EagerReply Answer
  | .canRead asked => ⟨.truth (asked.starts r.keys r.skipGap.remaining), r.skipGap, []⟩
  | .read asked => ⟨.token asked (r.read asked).answer, (r.read asked).reader, (r.read asked).events⟩
  | .unrecognized => ⟨.error (.noRecognizedToken r.skipGap.place r.skipGap.found), r.skipGap, []⟩
  | .remaining => ⟨.text r.remaining, r, []⟩
  | .isEmpty => ⟨.truth (Text.skipGap r.remaining).isEmpty, r, []⟩
  | .look => ⟨.done, r, []⟩

def run (r : EagerReader) : List Request → EagerReply (List Response)
  | [] => ⟨[], r, []⟩
  | request :: more =>
    let first := r.meet request
    let others := first.reader.run more
    ⟨⟨first.answer, first.reader.mark⟩ :: others.answer, others.reader,
      first.events ++ others.events⟩

def finish (r : EagerReader) : Except Error Unit :=
  let s := r.skipGap
  if s.remaining ≠ [] then .error (.trailingInput s.offset s.found)
  else if s.depth ≠ 0 then .error (.unbalancedNesting s.depth)
  else .ok ()

end EagerReader

namespace Reader

/-- The reader without its flag. -/
def forget (r : Reader) : EagerReader := ⟨r.consumed, r.remaining, r.depth, r.keys, r.sink⟩

end Reader

def Reply.forget {α : Type} (reply : Reply α) : EagerReply α :=
  ⟨reply.answer, reply.reader.forget, reply.events⟩

@[simp] lemma Reply.reader_forget {α : Type} (reply : Reply α) :
    reply.forget.reader = reply.reader.forget := rfl

namespace Reader

/-- A sound flag is up only where there is nothing to skip, so skipping does the same without it. -/
lemma FlagSound.forget_skipGap {r : Reader} (h : r.FlagSound) :
    r.skipGap.forget = r.forget.skipGap := by
  simp only [forget, EagerReader.skipGap, h.consumed_skipGap, h.remaining_skipGap, depth_skipGap,
    keys_skipGap, sink_skipGap]

lemma FlagSound.forget_read {r : Reader} (h : r.FlagSound) (asked : Kind) :
    (r.read asked).forget = r.forget.read asked := by
  cases hr : Token.read? r.skipGap.keys r.skipGap.remaining asked with
  | none =>
    have hf : Token.read? r.skipGap.forget.keys r.skipGap.forget.remaining asked = none := hr
    simp only [EagerReader.read, ← h.forget_skipGap, hf, read_of_none hr]
    rfl
  | some p =>
    have hf : Token.read? r.skipGap.forget.keys r.skipGap.forget.remaining asked = some p := hr
    simp only [EagerReader.read, ← h.forget_skipGap, hf, read_of_some hr]
    rfl

lemma FlagSound.forget_meet {r : Reader} (h : r.FlagSound) (request : Request) :
    (r.meet request).forget = r.forget.meet request := by
  cases request with
  | canRead asked =>
    have hk : r.forget.keys = r.skipGap.keys := (keys_skipGap r).symm
    simp only [EagerReader.meet, ← h.forget_skipGap, hk]
    rfl
  | read asked =>
    simp only [EagerReader.meet, ← h.forget_read]
    rfl
  | unrecognized =>
    simp only [EagerReader.meet, ← h.forget_skipGap]
    rfl
  | remaining => rfl
  | isEmpty => rfl
  | look => rfl

/-- Forgetting the flag of a reader commutes with every run. -/
lemma FlagSound.forget_run {r : Reader} (h : r.FlagSound) (requests : List Request) :
    (r.run requests).forget = r.forget.run requests := by
  induction requests generalizing r with
  | nil => rfl
  | cons request more ih =>
    have hothers := ih (h.step (step_meet r request))
    simp only [EagerReader.run, ← h.forget_meet request, Reply.reader_forget, ← hothers]
    rfl

lemma FlagSound.finish_forget {r : Reader} (h : r.FlagSound) : r.forget.finish = r.finish := by
  unfold EagerReader.finish
  rw [← h.forget_skipGap]
  rfl

/-- A read leaves the flag down exactly if it succeeds. -/
lemma trimmed_read (r : Reader) (asked : Kind) :
    (r.read asked).reader.trimmed = false ↔ ∃ token, (r.read asked).answer = .ok token := by
  cases hr : Token.read? r.skipGap.keys r.skipGap.remaining asked with
  | none => simp [read_of_none hr]
  | some p => simp [read_of_some hr, accept]

/-- The flag cannot be seen. Whatever is asked of a reader and of one without a flag, both give the
same answers, stand at the same places and depths after each, and end with the same consumed text,
depth, sink, journal and verdict. For the flag is up only where no gap is left to skip: a successful
read takes it down, and all that skips a gap puts it up. -/
theorem run_eq_eager (dump : Text) (keys : KeyTable) (sink : Option Sink) (requests : List Request) :
    let reply := (ofText dump keys sink).run requests
    let eager := (EagerReader.ofText dump keys sink).run requests
    reply.answer = eager.answer ∧ reply.events = eager.events ∧
      reply.reader.forget = eager.reader ∧ reply.reader.finish = eager.reader.finish ∧
      (reply.reader.trimmed = true → Text.Trimmed reply.reader.remaining) ∧
      ∀ asked,
        (reply.reader.canRead asked).2.trimmed = true ∧
        reply.reader.unrecognized.2.trimmed = true ∧
        ((reply.reader.read asked).reader.trimmed = false ↔
          ∃ token, (reply.reader.read asked).answer = .ok token) := by
  intro reply eager
  have flag : (ofText dump keys sink).FlagSound := flagSound_ofText dump keys sink
  have heager : reply.forget = eager := flag.forget_run requests
  have hreader : reply.reader.forget = eager.reader := congrArg EagerReply.reader heager
  have hflag : reply.reader.FlagSound := flag.run requests
  refine ⟨congrArg EagerReply.answer heager, congrArg EagerReply.events heager, hreader, ?_, hflag, ?_⟩
  · rw [← hreader, hflag.finish_forget]
  · intro asked
    exact ⟨trimmed_skipGap reply.reader, trimmed_skipGap reply.reader, trimmed_read reply.reader asked⟩

end Reader
end TreeDump
