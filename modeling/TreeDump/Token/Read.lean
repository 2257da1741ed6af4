import TreeDump.Token.Basic

/-! Asking for a kind of token and reading one. What stands at the start of a text is asked without
reading it. The two agree, but for a declaration, where only its name is looked for. -/
namespace TreeDump

namespace Kind

def starts (keys : KeyTable) (t : Text) : Kind → Bool
  | openParen => Text.startsWith '(' t
  | closeParen => Text.startsWith ')' t
  | identifier => Identifier.starts t
  | doubleQuoted => Delimiters.doubleQuotes.starts t
  | singleQuoted => Delimiters.singleQuotes.starts t
  | bracketed => Delimiters.brackets.starts t
  | identifierOrString =>
    Identifier.starts t || Delimiters.doubleQuotes.starts t ||
      Delimiters.singleQuotes.starts t || Delimiters.brackets.starts t
  | key => Key.starts keys t
  | location => Location.starts t
  | declaration => Declaration.starts t

end Kind

namespace Token

def readChar? (c : Char) (token : Token) : Text → Option (Token × Text)
  | [] => none
  | d :: r => if d = c then some (token, r) else none

/-- A token that bears what another reader finds. -/
def readAs? {α : Type} (token : α → Token) (found : Option (α × Text)) : Option (Token × Text) :=
  found.map fun (content, rest) => (token content, rest)

/-- The token of the asked kind at the start of a text, and what follows it. An identifier or string
is the first of an opening parenthesis, the strings and an identifier that stands there. -/
def read? (keys : KeyTable) (t : Text) : Kind → Option (Token × Text)
  | .openParen => readChar? '(' openParen t
  | .closeParen => readChar? ')' closeParen t
  | .identifier => readAs? identifier (Identifier.read? t)
  | .doubleQuoted => readAs? doubleQuoted (Delimiters.doubleQuotes.read? t)
  | .singleQuoted => readAs? singleQuoted (Delimiters.singleQuotes.read? t)
  | .bracketed => readAs? bracketed (Delimiters.brackets.read? t)
  | .identifierOrString =>
    readChar? '(' openParen t
      <|> readAs? doubleQuoted (Delimiters.doubleQuotes.read? t)
      <|> readAs? singleQuoted (Delimiters.singleQuotes.read? t)
      <|> readAs? bracketed (Delimiters.brackets.read? t)
      <|> readAs? identifier (Identifier.read? t)
  | .key => readAs? key (Key.read? keys t)
  | .location => readAs? location (Location.read? t)
  | .declaration => readAs? declaration (Declaration.read? t)

/-- The kinds that an identifier or string may turn out to be, in the order in which they are tried. -/
def alternatives : List Kind :=
  [.openParen, .doubleQuoted, .singleQuoted, .bracketed, .identifier]

theorem read?_identifierOrString (keys : KeyTable) (t : Text) :
    read? keys t .identifierOrString = alternatives.findSome? (read? keys t) := by
  simp only [read?, alternatives, List.findSome?_cons, List.findSome?_nil]
  cases readChar? '(' openParen t with
  | some p => rfl
  | none =>
    cases readAs? doubleQuoted (Delimiters.doubleQuotes.read? t) with
    | some p => rfl
    | none =>
      cases readAs? singleQuoted (Delimiters.singleQuotes.read? t) with
      | some p => rfl
      | none =>
        cases readAs? bracketed (Delimiters.brackets.read? t) with
        | some p => rfl
        | none => cases readAs? identifier (Identifier.read? t) <;> rfl

theorem eq_of_readChar? {c : Char} {t rest : Text} {token found : Token}
    (h : readChar? c token t = some (found, rest)) : found = token ∧ t = c :: rest := by
  cases t with
  | nil => cases h
  | cons d r =>
    simp only [readChar?] at h
    split at h
    · next hd => cases h; exact ⟨rfl, by rw [hd]⟩
    · cases h

theorem exists_of_readAs? {α : Type} {make : α → Token} {found : Option (α × Text)} {token : Token}
    {rest : Text} (h : readAs? make found = some (token, rest)) :
    ∃ content, found = some (content, rest) ∧ token = make content := by
  obtain ⟨⟨content, r⟩, hf, he⟩ := Option.map_eq_some_iff.1 h
  cases he
  exact ⟨content, hf, rfl⟩

theorem readChar?_isSome (c : Char) (token : Token) (t : Text) :
    (readChar? c token t).isSome = Text.startsWith c t := by
  cases t with
  | nil => rfl
  | cons d r => by_cases hd : d = c <;> simp [readChar?, Text.startsWith, hd]

theorem readAs?_isSome {α : Type} (make : α → Token) (found : Option (α × Text)) :
    (readAs? make found).isSome = found.isSome := by
  cases found <;> rfl

/-- A token of one kind can be read where one stands, but for a declaration, which needs more than
its name. -/
theorem read?_isSome (keys : KeyTable) (t : Text) (asked : Kind)
    (hs : asked ≠ .identifierOrString) (hd : asked ≠ .declaration) :
    (read? keys t asked).isSome = asked.starts keys t := by
  cases asked with
  | openParen => exact readChar?_isSome '(' openParen t
  | closeParen => exact readChar?_isSome ')' closeParen t
  | identifier => exact (readAs?_isSome identifier _).trans (Identifier.read?_isSome t)
  | doubleQuoted => exact (readAs?_isSome doubleQuoted _).trans (Delimiters.read?_isSome _ t)
  | singleQuoted => exact (readAs?_isSome singleQuoted _).trans (Delimiters.read?_isSome _ t)
  | bracketed => exact (readAs?_isSome bracketed _).trans (Delimiters.read?_isSome _ t)
  | identifierOrString => exact absurd rfl hs
  | key => exact (readAs?_isSome key _).trans (Key.read?_isSome keys t)
  | location => exact (readAs?_isSome location _).trans (Location.read?_isSome t)
  | declaration => exact absurd rfl hd

/-- What is read is a non-empty part at the front of the text, and of the kind that was asked for
unless any of several kinds would do. -/
theorem of_read? {keys : KeyTable} {t rest : Text} {asked : Kind} {token : Token}
    (h : read? keys t asked = some (token, rest)) :
    token.text ++ rest = t ∧ token.text ≠ [] ∧
      (asked ≠ .identifierOrString → token.kind = asked) := by
  have plain : ∀ {asked : Kind}, asked ≠ .identifierOrString →
      read? keys t asked = some (token, rest) →
      token.text ++ rest = t ∧ token.text ≠ [] ∧ token.kind = asked := by
    intro asked hne h
    cases asked with
    | openParen =>
      obtain ⟨rfl, rfl⟩ := eq_of_readChar? h
      exact ⟨rfl, List.cons_ne_nil _ _, rfl⟩
    | closeParen =>
      obtain ⟨rfl, rfl⟩ := eq_of_readChar? h
      exact ⟨rfl, List.cons_ne_nil _ _, rfl⟩
    | identifier =>
      obtain ⟨name, hr, rfl⟩ := exists_of_readAs? h
      exact ⟨(Identifier.append_of_read? hr).1, (Identifier.append_of_read? hr).2, rfl⟩
    | doubleQuoted =>
      obtain ⟨content, hr, rfl⟩ := exists_of_readAs? h
      exact ⟨Delimiters.wrap_append_of_read? hr, List.cons_ne_nil _ _, rfl⟩
    | singleQuoted =>
      obtain ⟨content, hr, rfl⟩ := exists_of_readAs? h
      exact ⟨Delimiters.wrap_append_of_read? hr, List.cons_ne_nil _ _, rfl⟩
    | bracketed =>
      obtain ⟨content, hr, rfl⟩ := exists_of_readAs? h
      exact ⟨Delimiters.wrap_append_of_read? hr, List.cons_ne_nil _ _, rfl⟩
    | identifierOrString => exact absurd rfl hne
    | key =>
      obtain ⟨name, hr, rfl⟩ := exists_of_readAs? h
      exact ⟨Key.text_append_of_read? hr, by simp [text, Key.text], rfl⟩
    | location =>
      obtain ⟨place, hr, rfl⟩ := exists_of_readAs? h
      exact ⟨Location.text_append_of_read? hr, by simp [text, Location.text], rfl⟩
    | declaration =>
      obtain ⟨declared, hr, rfl⟩ := exists_of_readAs? h
      exact ⟨Declaration.text_append_of_read? hr, by simp [text, Declaration.text], rfl⟩
  by_cases hs : asked = .identifierOrString
  · subst hs
    rw [read?_identifierOrString] at h
    obtain ⟨kind, hk, hr⟩ := List.exists_of_findSome?_eq_some h
    have hne : kind ≠ .identifierOrString := by
      intro he
      subst he
      revert hk
      decide
    have hp := plain hne hr
    exact ⟨hp.1, hp.2.1, fun hn => absurd rfl hn⟩
  · have hp := plain hs h
    exact ⟨hp.1, hp.2.1, fun _ => hp.2.2⟩

theorem length_lt_of_read? {keys : KeyTable} {t rest : Text} {asked : Kind} {token : Token}
    (h : read? keys t asked = some (token, rest)) : rest.length < t.length := by
  obtain ⟨ht, hne, _⟩ := of_read? h
  have hp := List.length_pos_iff.2 hne
  rw [← ht, List.length_append]
  omega

end Token
end TreeDump
