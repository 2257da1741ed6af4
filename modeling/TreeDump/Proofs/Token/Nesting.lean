import Mathlib.Data.List.Infix
import TreeDump.Proofs.Gap
import TreeDump.Token.Identifier

/-! How deep an identifier is in its own groups. The scan of an identifier carries nothing but this
depth from one character to the next, so it can be cut at any place. -/
namespace TreeDump
namespace Identifier

/-- No part at the start closes more groups than it opens and `depth` more. -/
def Nested (depth : Nat) (name : Text) : Prop :=
  ∀ part, part <+: name → part.count ')' ≤ depth + part.count '('

instance (depth : Nat) (name : Text) : Decidable (Nested depth name) :=
  decidable_of_iff (∀ part ∈ name.inits, part.count ')' ≤ depth + part.count '(') (by
    simp [Nested])

/-- The groups that are open after a name, where `depth` groups are open before it. -/
def depthAfter (depth : Nat) (name : Text) : Nat := depth + name.count '(' - name.count ')'

@[simp] lemma depthAfter_nil (depth : Nat) : depthAfter depth [] = depth := by simp [depthAfter]

@[simp] lemma depthAfter_open (depth : Nat) (r : Text) :
    depthAfter depth ('(' :: r) = depthAfter (depth+1) r := by
  simp only [depthAfter, List.count_cons_self, List.count_cons_of_ne (show ('(' : Char) ≠ ')' by decide)]
  omega

@[simp] lemma depthAfter_close (depth : Nat) (r : Text) :
    depthAfter (depth+1) (')' :: r) = depthAfter depth r := by
  simp only [depthAfter, List.count_cons_self, List.count_cons_of_ne (show (')' : Char) ≠ '(' by decide)]
  omega

lemma depthAfter_cons {c : Char} (ho : c ≠ '(') (hc : c ≠ ')') (depth : Nat) (r : Text) :
    depthAfter depth (c :: r) = depthAfter depth r := by
  simp [depthAfter, List.count_cons_of_ne ho, List.count_cons_of_ne hc]

lemma nested_nil (depth : Nat) : Nested depth [] := by
  intro part hp
  simp [List.prefix_nil.1 hp]

lemma nested_cons_iff (depth : Nat) (c : Char) (r : Text) :
    Nested depth (c :: r) ↔
      ∀ part, part <+: r → (c :: part).count ')' ≤ depth + (c :: part).count '(' := by
  constructor
  · intro h part hp
    exact h _ ((List.prefix_cons_inj c).2 hp)
  · intro h part hp
    rcases List.prefix_cons_iff.1 hp with rfl | ⟨tail, rfl, ht⟩
    · simp
    · exact h tail ht

lemma nested_open_iff (depth : Nat) (r : Text) : Nested depth ('(' :: r) ↔ Nested (depth+1) r := by
  rw [nested_cons_iff]
  apply forall_congr'
  intro part
  simp only [List.count_cons_self, List.count_cons_of_ne (show ('(' : Char) ≠ ')' by decide)]
  have he : depth + (part.count '(' + 1) = depth + 1 + part.count '(' := by omega
  rw [he]

lemma nested_close_iff (depth : Nat) (r : Text) :
    Nested depth (')' :: r) ↔ ∃ outer, depth = outer+1 ∧ Nested outer r := by
  rw [nested_cons_iff]
  simp only [List.count_cons_self, List.count_cons_of_ne (show (')' : Char) ≠ '(' by decide)]
  constructor
  · intro h
    have hd := h [] List.nil_prefix
    cases depth with
    | zero => simp at hd
    | succ outer =>
      refine ⟨outer, rfl, ?_⟩
      intro part hp
      have := h part hp
      omega
  · rintro ⟨outer, rfl, h⟩ part hp
    have := h part hp
    omega

lemma nested_cons_of_ne {c : Char} (ho : c ≠ '(') (hc : c ≠ ')') (depth : Nat) (r : Text) :
    Nested depth (c :: r) ↔ Nested depth r := by
  rw [nested_cons_iff]
  simp only [List.count_cons_of_ne ho, List.count_cons_of_ne hc]
  rfl

/-- A scan goes through a nested name without a gap, and on from there. -/
theorem split_append_of_nested {depth : Nat} {name : Text}
    (hg : ∀ c ∈ name, Text.isGap c = false) (hn : Nested depth name) (rest : Text) :
    split depth (name ++ rest) =
      (name ++ (split (depthAfter depth name) rest).1, (split (depthAfter depth name) rest).2) := by
  induction name generalizing depth with
  | nil => simp
  | cons c r ih =>
    have hc := hg c List.mem_cons_self
    have hr : ∀ d ∈ r, Text.isGap d = false := fun d hd => hg d (List.mem_cons_of_mem c hd)
    by_cases ho : c = '('
    · subst ho
      have h := ih hr ((nested_open_iff depth r).1 hn)
      simp [split, hc, h]
    · by_cases he : c = ')'
      · subst he
        obtain ⟨outer, rfl, houter⟩ := (nested_close_iff depth r).1 hn
        have h := ih hr houter
        simp [split, hc, h]
      · have h := ih hr ((nested_cons_of_ne ho he depth r).1 hn)
        simp [split, hc, ho, he, h, depthAfter_cons ho he]

/-- A scan stops at once at a gap, at the end, and at a parenthesis that closes an outer group. -/
theorem split_fst_eq_nil_iff (depth : Nat) (t : Text) :
    (split depth t).1 = [] ↔ ∀ c ∈ t.head?, Text.isGap c = true ∨ (c = ')' ∧ depth = 0) := by
  cases t with
  | nil => simp [split]
  | cons c r =>
    by_cases hg : Text.isGap c = true
    · simp [split, hg]
    · by_cases ho : c = '('
      · subst ho
        simp [split, hg]
      · by_cases he : c = ')'
        · subst he
          cases depth <;> simp [split, hg]
        · simp [split, hg, ho, he]

lemma split_snd (depth : Nat) (t : Text) :
    (split depth t).2 = t.drop (split depth t).1.length := by
  have h : ((split depth t).1 ++ (split depth t).2).drop (split depth t).1.length =
      (split depth t).2 := List.drop_left
  rw [split_append] at h
  exact h.symm

end Identifier
end TreeDump
