import TreeDump.Token.Basic

/-! The journal of a reader: one entry for each thing that happens to it, in order. -/
namespace TreeDump

inductive Level where
  | trace
  | debug
  | warn
  deriving DecidableEq, Repr

/-- Who writes an entry: the reader itself, or the sink that passes its records on. -/
inductive Source where
  | reader
  | sink
  deriving DecidableEq, Repr

inductive Event where
  /-- A token was read, beginning at this offset. -/
  | consumed (token : Token) (offset : Nat)
  /-- The sink passed on its record of a token. -/
  | forwarded (token : Token)
  /-- A group was closed that was never opened. The offset is the one after it. -/
  | unopenedClose (depth : Int) (offset : Nat)
  /-- A token was asked for that does not stand at this offset. -/
  | missingToken (expected : Kind) (offset : Nat)
  deriving DecidableEq, Repr

namespace Event

def level : Event → Level
  | consumed .. => .trace
  | forwarded .. => .debug
  | unopenedClose .. => .warn
  | missingToken .. => .debug

def source : Event → Source
  | forwarded .. => .sink
  | _ => .reader

def message : Event → String
  | consumed .. => "consumed"
  | forwarded .. => "read token"
  | unopenedClose .. => "closed a group that was never opened"
  | missingToken .. => "consume called without a matching token"

end Event

/-- Where a reader sends a record of each token that it has read. -/
inductive Sink where
  /-- Keeps the records, the oldest first. -/
  | recorder (seen : List Token)
  /-- Passes each record on to the journal. -/
  | forwarder
  deriving DecidableEq, Repr

namespace Sink

def record (token : Token) : Sink → Sink
  | recorder seen => recorder (seen ++ [token])
  | forwarder => forwarder

def events (token : Token) : Sink → List Event
  | recorder _ => []
  | forwarder => [.forwarded token]

end Sink
end TreeDump
