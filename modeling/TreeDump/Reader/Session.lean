import TreeDump.Reader.Request
import TreeDump.Settings

/-! Sessions: one reader, and calls on it one after the other. A call is a single request, a survey
of what stands at the cursor, a drain, or a look at the state of the reader itself. -/
namespace TreeDump

/-- The version of this library. -/
def version : String := "0.1.0"

/-- What a session does with its reader in one go. -/
inductive Call where
  | request (request : Request)
  | survey
  | drain (kinds : List Kind)
  | describe

inductive Outcome where
  | answer (answer : Answer)
  | survey (holds : List Bool)
  | drain (steps : List DrainStep)
  | description (t : Text)

/-- What one kind of token comes to at the cursor of a reader: whether it stands there, what reading
it gives, and what is left. -/
structure Probe where
  holds : Bool
  result : Except Error Token
  mark : Mark
  rest : Text

namespace Reader

/-- A reader at the start of a dump, with the composed keys that its settings list. -/
def ofSettings (dump : Text) (settings : Settings) (sink : Option Sink) : Except Error Reader :=
  settings.table.map fun keys => ofText dump keys sink

/-- Asks for some kinds in turn. -/
def survey (r : Reader) : List Kind → List Bool × Reader
  | [] => ([], r)
  | asked :: more =>
    let (holds, s) := r.canRead asked
    let (others, last) := s.survey more
    (holds :: others, last)

def call (r : Reader) : Call → Reply Outcome
  | .request request =>
    let reply := r.meet request
    ⟨.answer reply.answer, reply.reader, reply.events⟩
  | .survey => ⟨.survey (r.survey Kind.all).1, (r.survey Kind.all).2, []⟩
  | .drain kinds =>
    let reply := r.drain kinds
    ⟨.drain reply.answer, reply.reader, reply.events⟩
  | .describe => ⟨.description r.describe, r, []⟩

/-- Makes calls one after the other, and notes where the reader stands after each. -/
def session (r : Reader) : List Call → Reply (List (Outcome × Mark))
  | [] => ⟨[], r, []⟩
  | call :: more =>
    let first := r.call call
    let others := first.reader.session more
    ⟨(first.answer, first.reader.mark) :: others.answer, others.reader,
      first.events ++ others.events⟩

def probe (r : Reader) (asked : Kind) : Probe :=
  let (holds, s) := r.canRead asked
  let reply := s.read asked
  ⟨holds, reply.answer, reply.reader.mark, reply.reader.remaining⟩

/-- A survey says of each kind whether it stands at the cursor, and skips the gap there. -/
theorem survey_eq (r : Reader) (kinds : List Kind) :
    (r.survey kinds).1 = kinds.map fun asked => (r.canRead asked).1 := by
  induction kinds generalizing r with
  | nil => rfl
  | cons asked more ih =>
    simp only [survey, List.map_cons, ih (r.canRead asked).2]
    congr 1
    simp [canRead]

end Reader
end TreeDump
