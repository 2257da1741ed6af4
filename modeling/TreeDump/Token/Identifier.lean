import TreeDump.Text.Basic

/-! Identifiers. An identifier begins with a plain name character and then runs on to the next gap,
taking in parenthesised groups whole; a parenthesis that closes a group opened before the identifier
ends it. -/
namespace TreeDump

/-- Characters that names consist of: no blanks, parentheses or quotes. -/
def isNameChar (c : Char) : Bool :=
  !(Text.isBlank c || c == '(' || c == ')' || c == '"' || c == '\'')

namespace Identifier

def starts : Text → Bool
  | [] => false
  | c :: _ => isNameChar c

/-- Splits a text after its longest part that has no gap character and closes no more than the
`depth` groups that are open before it and those that it opens itself. -/
def split (depth : Nat) : Text → Text × Text
  | [] => ([], [])
  | c :: r =>
    if Text.isGap c then ([], c :: r)
    else if c = '(' then
      let (name, rest) := split (depth + 1) r
      (c :: name, rest)
    else if c = ')' then
      match depth with
      | 0 => ([], c :: r)
      | outer + 1 =>
        let (name, rest) := split outer r
        (c :: name, rest)
    else
      let (name, rest) := split depth r
      (c :: name, rest)

def read? (t : Text) : Option (Text × Text) :=
  if starts t then some (split 0 t) else none

@[simp] theorem split_append (depth : Nat) (t : Text) :
    (split depth t).1 ++ (split depth t).2 = t := by
  induction t generalizing depth with
  | nil => rfl
  | cons c r ih =>
    unfold split
    split
    · rfl
    · split
      · simp [ih]
      · split
        · cases depth with
          | zero => rfl
          | succ outer => simp [ih]
        · simp [ih]

theorem isGap_eq_false_of_isNameChar {c : Char} (h : isNameChar c = true) :
    Text.isGap c = false := by
  cases hg : Text.isGap c with
  | false => rfl
  | true => simp [isNameChar, Text.isBlank_of_isGap c hg] at h

/-- An identifier has at least the character that it begins with. -/
theorem split_ne_nil {t : Text} (h : starts t = true) : (split 0 t).1 ≠ [] := by
  cases t with
  | nil => simp [starts] at h
  | cons c r =>
    have hg := isGap_eq_false_of_isNameChar h
    have hp : c ≠ '(' ∧ c ≠ ')' := by
      simp only [starts, isNameChar, Bool.not_eq_true', Bool.or_eq_false_iff, beq_eq_false_iff_ne] at h
      exact ⟨h.1.1.1.2, h.1.1.2⟩
    simp [split, hg, hp.1, hp.2]

theorem read?_isSome (t : Text) : (read? t).isSome = starts t := by
  unfold read?
  split <;> simp_all

/-- A reading takes a non-empty part off the front of the text. -/
theorem append_of_read? {t name rest : Text} (h : read? t = some (name, rest)) :
    name ++ rest = t ∧ name ≠ [] := by
  unfold read? at h
  split at h
  · next hs =>
    have he := Option.some.inj h
    have h1 : (split 0 t).1 = name := congrArg Prod.fst he
    have h2 : (split 0 t).2 = rest := congrArg Prod.snd he
    subst h1 h2
    exact ⟨split_append 0 t, split_ne_nil hs⟩
  · cases h

end Identifier
end TreeDump
