import TreeDump.Decimal.Shortest
import TreeDump.Text.Quoted

/-! Faults of JSON text, and where in it they lie. A scanner sees only the text that is left, so it
tells a place by how much of the text is left there. -/
namespace TreeDump
namespace Json

inductive Found where
  | null
  | boolean (b : Bool)
  | integer (n : Int)
  | float (negative : Bool) (magnitude : Binary64)
  | string (t : Text)
  | list
  | object
  deriving DecidableEq, Repr

inductive Expected where
  | settings
  | list
  | string
  | null
  deriving DecidableEq, Repr

inductive Cause where
  | endInValue
  | endInString
  | endInList
  | endInObject
  | expectedValue
  | expectedWord
  | expectedListEnd
  | expectedObjectEnd
  | expectedColon
  | trailingComma
  | trailingCharacters
  | keyNotString
  | controlCharacter
  | invalidEscape
  | loneSurrogate
  | unpairedSurrogate
  | invalidNumber
  | numberOutOfRange
  | repeatedMember (name : Text)
  | invalidType (found : Found) (expected : Expected)
  | unknownName (name : Text) (known : List Text)
  deriving DecidableEq, Repr

/-- A cause, and how many bytes of the text are left where it is noticed. -/
structure Fault where
  cause : Cause
  left : Nat
  deriving DecidableEq, Repr

/-- How floating point numbers are written: positional from a hundred thousandth up to sixteen
digits before the point. -/
def floatLayout : Decimal.Layout := ⟨-5, 16⟩

/-- A number by its sign and magnitude. Zero has a sign as well. -/
def describeFloat (negative : Bool) (magnitude : Binary64) : Text :=
  (if negative then ['-'] else []) ++
    if magnitude.significand = 0 then "0.0".toList
    else (Decimal.shortest magnitude).render floatLayout

/-- A word as it stands in a message, between marks. -/
def marked (t : Text) : Text := '\x60' :: (t ++ ['\x60'])

def Found.describe : Found → Text
  | null => "null".toList
  | boolean b => "boolean ".toList ++ marked (Text.ofBool b)
  | integer n => "integer ".toList ++ marked (Text.signedDecimal n)
  | float negative magnitude =>
    "floating point ".toList ++ marked (describeFloat negative magnitude)
  | string t => "string ".toList ++ Text.quoted t
  | list => "sequence".toList
  | object => "map".toList

def Expected.describe : Expected → Text
  | settings => "struct ReaderConfig".toList
  | list => "a sequence".toList
  | string => "a string".toList
  | null => "unit".toList

def Cause.message : Cause → Text
  | endInValue => "EOF while parsing a value".toList
  | endInString => "EOF while parsing a string".toList
  | endInList => "EOF while parsing a list".toList
  | endInObject => "EOF while parsing an object".toList
  | expectedValue => "expected value".toList
  | expectedWord => "expected ident".toList
  | expectedListEnd => "expected `,` or `]`".toList
  | expectedObjectEnd => "expected `,` or `\x7d`".toList
  | expectedColon => "expected `:`".toList
  | trailingComma => "trailing comma".toList
  | trailingCharacters => "trailing characters".toList
  | keyNotString => "key must be a string".toList
  | controlCharacter =>
    "control character (\\u0000-\\u001F) found while parsing a string".toList
  | invalidEscape => "invalid escape".toList
  | loneSurrogate => "lone leading surrogate in hex escape".toList
  | unpairedSurrogate => "unexpected end of hex escape".toList
  | invalidNumber => "invalid number".toList
  | numberOutOfRange => "number out of range".toList
  | repeatedMember name => "duplicate field ".toList ++ marked name
  | invalidType found expected =>
    "invalid type: ".toList ++ found.describe ++ ", expected ".toList ++ expected.describe
  | unknownName name known =>
    "unknown variant ".toList ++ marked name ++ ", expected one of ".toList ++
      Text.separatedBy ", ".toList (known.map marked)

/-- The line, counted from one, and the number of bytes before a byte on its line. -/
def linePlace (index : Nat) : Text → Nat × Nat
  | [] => (1, index)
  | c :: r =>
    if index < c.utf8Size then (1, index)
    else
      let (line, column) := linePlace (index - c.utf8Size) r
      if c = '\n' then (line + 1, column)
      else if line = 1 then (1, column + c.utf8Size)
      else (line, column)

namespace Fault

def atEnd (cause : Cause) : Fault := ⟨cause, 0⟩

/-- A fault noticed just before the rest of the text. -/
def before (cause : Cause) (rest : Text) : Fault := ⟨cause, Text.utf8Size rest⟩

/-- A fault noticed at the first byte of the rest, which counts as passed. At the end of the text
nothing is left to pass. -/
def peeking (cause : Cause) (rest : Text) : Fault := ⟨cause, Text.utf8Size rest - 1⟩

def describe (fault : Fault) (whole : Text) : Text :=
  let (line, column) := linePlace (Text.utf8Size whole - fault.left) whole
  fault.cause.message ++ " at line ".toList ++ Text.decimal line ++
    " column ".toList ++ Text.decimal column

end Fault
end Json
end TreeDump
