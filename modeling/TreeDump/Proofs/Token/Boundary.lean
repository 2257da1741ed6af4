import TreeDump.Proofs.Token.Written

/-! Where a written token ends. What follows it may run on into it, and the condition that keeps the
two apart looks at one character only. -/
namespace TreeDump
namespace Token

/-- A token that can be read again under a table of keys, once it is written. -/
def Written (keys : KeyTable) : Token → Prop
  | openParen => True
  | closeParen => True
  | identifier name => Identifier.Written name
  | doubleQuoted content => Delimiters.doubleQuotes.Written content
  | singleQuoted content => Delimiters.singleQuotes.Written content
  | bracketed content => Delimiters.brackets.Written content
  | key name => Key.Written keys name
  | location place => place.Written
  | declaration declared => declared.Written

/-- Nothing at the start of a text can pass for a part of the token in front of it. -/
def EndsBefore (rest : Text) : Token → Prop
  | identifier name =>
    ∀ c ∈ rest.head?, Text.isGap c = true ∨ (c = ')' ∧ name.count '(' = name.count ')')
  | location _ => ∀ c ∈ rest.head?, c.isDigit = false
  | declaration _ => ∀ c ∈ rest.head?, c.isDigit = false
  | _ => True

instance decidableWritten (keys : KeyTable) : (token : Token) → Decidable (token.Written keys)
  | openParen => isTrue trivial
  | closeParen => isTrue trivial
  | identifier name => inferInstanceAs (Decidable (Identifier.Written name))
  | doubleQuoted content => inferInstanceAs (Decidable (Delimiters.doubleQuotes.Written content))
  | singleQuoted content => inferInstanceAs (Decidable (Delimiters.singleQuotes.Written content))
  | bracketed content => inferInstanceAs (Decidable (Delimiters.brackets.Written content))
  | key name => inferInstanceAs (Decidable (Key.Written keys name))
  | location place => inferInstanceAs (Decidable place.Written)
  | declaration declared => inferInstanceAs (Decidable declared.Written)

instance decidableEndsBefore (rest : Text) : (token : Token) → Decidable (token.EndsBefore rest)
  | identifier name => inferInstanceAs (Decidable (∀ c ∈ rest.head?,
      Text.isGap c = true ∨ (c = ')' ∧ name.count '(' = name.count ')')))
  | location _ => inferInstanceAs (Decidable (∀ c ∈ rest.head?, c.isDigit = false))
  | declaration _ => inferInstanceAs (Decidable (∀ c ∈ rest.head?, c.isDigit = false))
  | openParen => isTrue trivial
  | closeParen => isTrue trivial
  | doubleQuoted _ => isTrue trivial
  | singleQuoted _ => isTrue trivial
  | bracketed _ => isTrue trivial
  | key _ => isTrue trivial

/-- The start of a text that is read as a part of the token in front of it. -/
def overrun (rest : Text) : Token → Text
  | identifier name => (Identifier.split (Identifier.depthAfter 0 name) rest).1
  | location _ => rest.takeWhile Char.isDigit
  | declaration _ => rest.takeWhile Char.isDigit
  | _ => []

def extend (more : Text) : Token → Token
  | identifier name => identifier (name ++ more)
  | location place => location (place.extend more)
  | declaration declared => declaration (declared.extend more)
  | token => token

@[simp] lemma extend_nil (token : Token) : token.extend [] = token := by
  cases token <;> simp [extend]

lemma payload_extend_overrun (token : Token) (rest : Text) :
    (token.extend (token.overrun rest)).payload = token.payload ++ token.overrun rest := by
  cases token <;> simp [extend, overrun, payload]

lemma takeWhile_isDigit_eq_nil_iff (t : Text) :
    t.takeWhile Char.isDigit = [] ↔ ∀ c ∈ t.head?, c.isDigit = false := by
  cases t with
  | nil => simp
  | cons c r => by_cases hc : c.isDigit = true <;> simp [hc]

/-- A token ends before a text exactly if it takes nothing in of it. -/
lemma overrun_eq_nil_iff {keys : KeyTable} {token : Token} (h : token.Written keys) (rest : Text) :
    token.overrun rest = [] ↔ token.EndsBefore rest := by
  cases token with
  | identifier name =>
    have hn := (Identifier.Written.nested h) name (List.prefix_refl name)
    have hd : Identifier.depthAfter 0 name = 0 ↔ name.count '(' = name.count ')' := by
      simp only [Identifier.depthAfter]
      omega
    simp only [overrun, EndsBefore, Identifier.split_fst_eq_nil_iff, hd]
  | location place => exact takeWhile_isDigit_eq_nil_iff rest
  | declaration declared => exact takeWhile_isDigit_eq_nil_iff rest
  | _ => simp [overrun, EndsBefore]

lemma dropWhile_eq_drop (t : Text) :
    t.dropWhile Char.isDigit = t.drop (t.takeWhile Char.isDigit).length := by
  have h : (t.takeWhile Char.isDigit ++ t.dropWhile Char.isDigit).drop
      (t.takeWhile Char.isDigit).length = t.dropWhile Char.isDigit := List.drop_left
  rw [List.takeWhile_append_dropWhile] at h
  exact h.symm

/-- A written token is read with what it takes in of the text behind it. -/
theorem read?_text_append {keys : KeyTable} (plain : keys.Plain) {token : Token}
    (h : token.Written keys) (rest : Text) :
    read? keys (token.text ++ rest) token.kind =
      some (token.extend (token.overrun rest), rest.drop (token.overrun rest).length) := by
  cases token with
  | openParen => rfl
  | closeParen => rfl
  | identifier name =>
    simp only [read?, kind, text, Identifier.read?_append h, readAs?, extend, overrun,
      ← Identifier.split_snd]
    rfl
  | doubleQuoted content =>
    simp only [read?, kind, text, Delimiters.read?_wrap_append h]
    rfl
  | singleQuoted content =>
    simp only [read?, kind, text, Delimiters.read?_wrap_append h]
    rfl
  | bracketed content =>
    simp only [read?, kind, text, Delimiters.read?_wrap_append h]
    rfl
  | key name =>
    simp only [read?, kind, text, Key.read?_text_append plain h]
    rfl
  | location place =>
    simp only [read?, kind, text, Location.read?_text_append h, dropWhile_eq_drop]
    rfl
  | declaration declared =>
    simp only [read?, kind, text, Declaration.read?_text_append h, dropWhile_eq_drop]
    rfl

lemma Written.text_ne_nil {keys : KeyTable} {token : Token} (h : token.Written keys) :
    token.text ≠ [] := by
  cases token with
  | identifier name =>
    rintro rfl
    exact absurd (Identifier.Written.starts h) (by simp [Identifier.starts])
  | _ => simp [text, Delimiters.wrap, Key.text, Location.text, Declaration.text]

lemma Written.trimmed_text {keys : KeyTable} {token : Token} (h : token.Written keys) :
    Text.Trimmed token.text := by
  cases token with
  | identifier name => exact Identifier.Written.trimmed h
  | key name =>
    have hn := Key.Written.ne_nil h
    exact (Text.trimmed_append_iff hn _).2 (Key.Written.trimmed h)
  | location place => exact Location.Written.trimmed_text h
  | declaration declared =>
    exact (Text.trimmed_append_iff h.name_ne_nil _).2 (Declaration.Written.trimmed h)
  | _ => simp [text, Delimiters.wrap, Delimiters.doubleQuotes, Delimiters.singleQuotes,
      Delimiters.brackets, Text.isGap]

end Token
end TreeDump
