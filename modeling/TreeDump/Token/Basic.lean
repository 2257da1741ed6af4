import TreeDump.Token.Declaration
import TreeDump.Token.Delimited
import TreeDump.Token.Key
import TreeDump.Token.Kind

/-! Tokens of a dump, as they are written and as a caller receives them. -/
namespace TreeDump

inductive Token where
  | openParen
  | closeParen
  | identifier (name : Text)
  | doubleQuoted (content : Text)
  | singleQuoted (content : Text)
  | bracketed (content : Text)
  | key (name : Text)
  | location (place : Location)
  | declaration (declared : Declaration)
  deriving DecidableEq, Repr

namespace Token

def kind : Token → Kind
  | openParen => .openParen
  | closeParen => .closeParen
  | identifier _ => .identifier
  | doubleQuoted _ => .doubleQuoted
  | singleQuoted _ => .singleQuoted
  | bracketed _ => .bracketed
  | key _ => .key
  | location _ => .location
  | declaration _ => .declaration

def text : Token → Text
  | openParen => ['(']
  | closeParen => [')']
  | identifier name => name
  | doubleQuoted content => Delimiters.doubleQuotes.wrap content
  | singleQuoted content => Delimiters.singleQuotes.wrap content
  | bracketed content => Delimiters.brackets.wrap content
  | key name => Key.text name
  | location place => place.text
  | declaration declared => declared.text

/-- What a caller receives of the token: no delimiters, no equals sign, no gap. -/
def payload : Token → Text
  | openParen => []
  | closeParen => []
  | identifier name => name
  | doubleQuoted content => content
  | singleQuoted content => content
  | bracketed content => content
  | key name => name
  | location place => place.text
  | declaration declared => declared.canonical

/-- No token is an identifier or string: it is one of them. -/
theorem kind_ne_identifierOrString (token : Token) : token.kind ≠ .identifierOrString := by
  cases token <;> simp [kind]

end Token
end TreeDump
