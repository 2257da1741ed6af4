import TreeDump.Text.Place
import TreeDump.Text.Quoted
import TreeDump.Token.Kind

/-! What can go wrong between a dump, its reader and the reader's settings, and how it is said. -/
namespace TreeDump

/-- An error by its cause. Places and quoted text point at the first character that is not a gap. -/
inductive Error where
  /-- A read was asked for where no such token stands. -/
  | contractViolation (expected : Kind) (place : Place) (found : Text)
  /-- The caller found nothing here that it can read. -/
  | noRecognizedToken (place : Place) (found : Text)
  /-- The dump ended inside a group, or closed more groups than it opened. -/
  | unbalancedNesting (depth : Int)
  /-- Something other than gaps follows the dump. -/
  | trailingInput (offset : Nat) (found : Text)
  /-- A composed key that no table can hold. -/
  | invalidComposedKey (key : Text) (reason : Text)
  /-- Settings that could not be read. -/
  | settings (text : Text)
  deriving DecidableEq, Repr

/-- What an error means for the caller. -/
inductive Severity where
  /-- The caller or its settings are at fault, and the dump cannot be read on. -/
  | fatal
  /-- The dump is at fault, and the caller may go on with the next one. -/
  | recoverable
  deriving DecidableEq, Repr

namespace Error

def severity : Error → Severity
  | contractViolation .. => .fatal
  | noRecognizedToken .. => .recoverable
  | unbalancedNesting .. => .fatal
  | trailingInput .. => .recoverable
  | invalidComposedKey .. => .fatal
  | settings .. => .fatal

/-- The kind that was asked for, if the error is a broken contract. -/
def expected? : Error → Option Kind
  | contractViolation expected .. => some expected
  | _ => none

def describePlace (p : Place) : Text :=
  "line ".toList ++ Text.decimal p.line ++ ", column ".toList ++ Text.decimal p.column ++
    " (offset ".toList ++ Text.decimal p.offset ++ ")".toList

/-- The error in words. Texts taken from the input are quoted, so that they cannot pass for words of
the message. -/
def message : Error → Text
  | contractViolation expected place found =>
    "Expected ".toList ++ expected.name.toList ++ " at ".toList ++ describePlace place ++
      ", found ".toList ++ Text.quoted found
  | noRecognizedToken place found =>
    "No recognized token at ".toList ++ describePlace place ++ ": ".toList ++ Text.quoted found
  | unbalancedNesting depth =>
    "Unbalanced nesting: depth ".toList ++ Text.signedDecimal depth ++
      " at end of expression".toList
  | trailingInput offset found =>
    "Trailing input at offset ".toList ++ Text.decimal offset ++ ": ".toList ++ Text.quoted found
  | invalidComposedKey key reason =>
    "Invalid composed key ".toList ++ Text.quoted key ++ ": ".toList ++ reason
  | settings text => "Configuration error: ".toList ++ text

end Error
end TreeDump
