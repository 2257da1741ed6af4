import TreeDump.Error
import TreeDump.Json.Expect
import TreeDump.Json.Scan

/-! Token kinds in JSON. A kind is written as its tag, and read from its tag or from an object that
has the tag as the name of its only member and null as the value. -/
namespace TreeDump
namespace Kind

open Json (Fault)

/-- Scans the tag of a kind after its opening quote. -/
def scanTag (t : Text) : Except Fault (Kind × Text) := do
  let (tag, rest) ← Json.scanString 0 t
  match ofTag? tag with
  | some kind => return (kind, rest)
  | none => .error (.before (.unknownName tag (all.map fun kind => kind.tag.toList)) rest)

/-- Scans the null that stands for the content of a kind. -/
def scanNull (t : Text) : Except Fault Text :=
  match Json.skipBlanks t with
  | 'n' :: r => Json.scanWord "ull".toList r
  | r => .error (Json.mismatch .null r)

/-- Scans the end of an object that has one member. What stands there in its place is not passed. -/
def scanObjectEnd (t : Text) : Except Fault Text :=
  match Json.skipBlanks t with
  | [] => .error (.atEnd .endInObject)
  | '\x7d' :: r => .ok r
  | r => .error (.before .expectedValue r)

/-- Scans a kind in its object form, after the opening bracket. An object without members has no
value for the kind, and anything else that is not a string cannot name a member. -/
def scanMember (t : Text) : Except Fault (Kind × Text) :=
  match Json.skipBlanks t with
  | [] => .error (.atEnd .endInObject)
  | '"' :: r => do
    let (kind, r) ← scanTag r
    let r ← Json.scanColon r
    let r ← scanNull r
    return (kind, ← scanObjectEnd r)
  | '\x7d' :: r => .error (.peeking .expectedValue ('\x7d' :: r))
  | r => .error (.peeking .keyNotString r)

def scan (t : Text) : Except Fault (Kind × Text) :=
  match Json.skipBlanks t with
  | [] => .error (.atEnd .endInValue)
  | '"' :: r => scanTag r
  | '\x7b' :: r => scanMember r
  | r => .error (.peeking .expectedValue r)

def ofJson (t : Text) : Except Error Kind :=
  match (do
    let (kind, rest) ← scan t
    Json.scanEnd rest
    return kind : Except Fault Kind) with
  | .error f => .error (.settings (f.describe t))
  | .ok kind => .ok kind

def toJson (kind : Kind) : Text := Json.writeString kind.tag.toList

end Kind
end TreeDump
