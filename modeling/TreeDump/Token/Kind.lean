import TreeDump.Text.Basic

/-! The kinds of token that a caller can ask for. -/
namespace TreeDump

/-- What a caller can ask for at the cursor. All but `identifierOrString` are also the kind of a
token; that one stands for an opening parenthesis, a string or an identifier. -/
inductive Kind where
  | openParen
  | closeParen
  | identifier
  | doubleQuoted
  | singleQuoted
  | bracketed
  | identifierOrString
  | key
  | location
  | declaration
  deriving DecidableEq, Repr

namespace Kind

/-- Every kind, in the order in which a survey asks for them. -/
def all : List Kind :=
  [openParen, closeParen, identifier, doubleQuoted, singleQuoted, bracketed, identifierOrString,
   key, location, declaration]

/-- The kind in the words of messages and journal entries. -/
def name : Kind → String
  | openParen => "open parenthesis"
  | closeParen => "close parenthesis"
  | identifier => "identifier"
  | doubleQuoted => "double-quoted string"
  | singleQuoted => "single-quoted string"
  | bracketed => "bracketed string"
  | identifierOrString => "identifier or string"
  | key => "key"
  | location => "location"
  | declaration => "declaration location"

/-- The one word that stands for the kind in JSON. -/
def tag : Kind → String
  | openParen => "OpenParen"
  | closeParen => "CloseParen"
  | identifier => "Identifier"
  | doubleQuoted => "DoubleQuotedString"
  | singleQuoted => "SingleQuotedString"
  | bracketed => "BracketedString"
  | identifierOrString => "IdentifierOrString"
  | key => "Key"
  | location => "Location"
  | declaration => "DeclarationLocation"

def ofTag? (tag : Text) : Option Kind := all.find? fun kind => kind.tag.toList == tag

/-- Parentheses bear structure and no text of their own. -/
def isParen : Kind → Bool
  | openParen | closeParen => true
  | _ => false

theorem mem_all (kind : Kind) : kind ∈ all := by
  cases kind <;> decide

theorem ofTag?_tag (kind : Kind) : ofTag? kind.tag.toList = some kind := by
  cases kind <;> decide

theorem tag_of_ofTag? {tag : Text} {kind : Kind} (h : ofTag? tag = some kind) :
    kind.tag.toList = tag := by
  have hp := List.find?_some h
  exact eq_of_beq hp

end Kind
end TreeDump
