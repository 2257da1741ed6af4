import TreeDump.Reader.Basic
import TreeDump.Token.Read

/-! Asking a reader for a kind of token, and reading one. A read that fails leaves the reader at the
first character that is not a gap, and tells what stands there. -/
namespace TreeDump

/-- What an operation on a reader gives: an answer, the reader after it, and the entries that it made
in the journal. -/
structure Reply (α : Type) where
  answer : α
  reader : Reader
  events : List Event

namespace Token

def depthChange : Token → Int
  | openParen => 1
  | closeParen => -1
  | _ => 0

end Token

namespace Reader

def canRead (asked : Kind) (r : Reader) : Bool × Reader :=
  let s := r.skipGap
  (asked.starts s.keys s.remaining, s)

/-- The reader after a token, where `rest` is what follows the token. -/
def accept (token : Token) (rest : Text) (r : Reader) : Reader :=
  { r with
    consumed := r.consumed ++ token.text
    remaining := rest
    depth := r.depth + token.depthChange
    trimmed := false
    sink := r.sink.map (Sink.record token) }

/-- The warning for a group that was never opened, due after a closing parenthesis. -/
def closeEvents (token : Token) (r : Reader) : List Event :=
  if token = .closeParen ∧ r.depth < 0 then [.unopenedClose r.depth r.offset] else []

/-- The entries for a token that is read at the cursor. -/
def acceptEvents (token : Token) (rest : Text) (r : Reader) : List Event :=
  .consumed token r.offset :: ((r.sink.map (Sink.events token)).getD [] ++
    closeEvents token (r.accept token rest))

def read (asked : Kind) (r : Reader) : Reply (Except Error Token) :=
  let s := r.skipGap
  match Token.read? s.keys s.remaining asked with
  | some (token, rest) => ⟨.ok token, s.accept token rest, s.acceptEvents token rest⟩
  | none => ⟨.error (.contractViolation asked s.place s.found), s, [.missingToken asked s.offset]⟩

theorem read_of_some {asked : Kind} {r : Reader} {token : Token} {rest : Text}
    (h : Token.read? r.skipGap.keys r.skipGap.remaining asked = some (token, rest)) :
    r.read asked =
      ⟨.ok token, r.skipGap.accept token rest, r.skipGap.acceptEvents token rest⟩ := by
  simp [read, h]

theorem read_of_none {asked : Kind} {r : Reader}
    (h : Token.read? r.skipGap.keys r.skipGap.remaining asked = none) :
    r.read asked =
      ⟨.error (.contractViolation asked r.skipGap.place r.skipGap.found), r.skipGap,
        [.missingToken asked r.skipGap.offset]⟩ := by
  simp [read, h]

theorem length_remaining_canRead_le (asked : Kind) (r : Reader) :
    (r.canRead asked).2.remaining.length ≤ r.remaining.length :=
  length_remaining_skipGap_le r

/-- A successful read leaves less of the dump. -/
theorem length_remaining_read_lt {asked : Kind} {r : Reader} {token : Token}
    (h : (r.read asked).answer = .ok token) :
    (r.read asked).reader.remaining.length < r.remaining.length := by
  cases hr : Token.read? r.skipGap.keys r.skipGap.remaining asked with
  | none => rw [read_of_none hr] at h; cases h
  | some p =>
    rw [read_of_some hr]
    exact Nat.lt_of_lt_of_le (Token.length_lt_of_read? hr) (length_remaining_skipGap_le r)

theorem length_remaining_read_le (asked : Kind) (r : Reader) :
    (r.read asked).reader.remaining.length ≤ r.remaining.length := by
  cases hr : Token.read? r.skipGap.keys r.skipGap.remaining asked with
  | none => rw [read_of_none hr]; exact length_remaining_skipGap_le r
  | some p =>
    rw [read_of_some hr]
    exact Nat.le_of_lt
      (Nat.lt_of_lt_of_le (Token.length_lt_of_read? hr) (length_remaining_skipGap_le r))

@[simp] theorem dump_read (asked : Kind) (r : Reader) : (r.read asked).reader.dump = r.dump := by
  rw [← dump_skipGap r]
  cases hr : Token.read? r.skipGap.keys r.skipGap.remaining asked with
  | none => rw [read_of_none hr]
  | some p =>
    rw [read_of_some hr]
    simp [dump, accept, (Token.of_read? hr).1]

end Reader
end TreeDump
