import Mathlib.Tactic.Tauto
import TreeDump.Error
import TreeDump.Proofs.Quoted

/-! Messages of errors. The words of a message can be taken apart again in one way only, so no two errors
print alike, whatever their quoted texts hold. -/
namespace TreeDump

/-- No name of a kind goes on as another does. -/
lemma Kind.eq_of_name_isPrefix : ∀ kind ∈ all, ∀ other ∈ all,
    kind.name.toList ++ " at ".toList <+: other.name.toList ++ " at ".toList → kind = other := by
  decide

lemma Kind.name_append_inj {kind other : Kind} {x y : Text} :
    kind.name.toList ++ (" at ".toList ++ x) = other.name.toList ++ (" at ".toList ++ y) ↔
      kind = other ∧ x = y := by
  constructor
  · intro h
    rw [← List.append_assoc, ← List.append_assoc] at h
    have hkind : kind = other := by
      rcases List.prefix_or_prefix_of_prefix (List.prefix_append _ x) (h ▸ List.prefix_append _ y)
        with hp | hp
      · exact eq_of_name_isPrefix kind (mem_all kind) other (mem_all other) hp
      · exact (eq_of_name_isPrefix other (mem_all other) kind (mem_all kind) hp).symm
    subst hkind
    exact ⟨rfl, List.append_cancel_left h⟩
  · rintro ⟨rfl, rfl⟩
    rfl

namespace Error

lemma describePlace_append_inj {p q : Place} {x y : Text} :
    describePlace p ++ x = describePlace q ++ y ↔ p = q ∧ x = y := by
  obtain ⟨offset, line, column⟩ := p
  obtain ⟨offset', line', column'⟩ := q
  have hcolumn : ", column ".toList.head?.map Char.isDigit = some false := by decide
  have hoffset : " (offset ".toList.head?.map Char.isDigit = some false := by decide
  have hend : ")".toList.head?.map Char.isDigit = some false := by decide
  unfold describePlace
  simp only [List.append_assoc, List.append_cancel_left_eq, Text.decimal_append_inj hcolumn,
    Text.decimal_append_inj hoffset, Text.decimal_append_inj hend, Place.mk.injEq]
  tauto

/-- The letter with which the message begins. -/
def initial : Error → Char
  | contractViolation .. => 'E'
  | noRecognizedToken .. => 'N'
  | unbalancedNesting .. => 'U'
  | trailingInput .. => 'T'
  | invalidComposedKey .. => 'I'
  | settings .. => 'C'

lemma head?_message (e : Error) : e.message.head? = some e.initial := by
  cases e <;> rfl

lemma initial_eq_of_message {e f : Error} (h : e.message = f.message) : e.initial = f.initial := by
  have hhead := congrArg List.head? h
  rw [head?_message, head?_message] at hhead
  exact Option.some.inj hhead

/-- Messages are unambiguous. -/
theorem message_inj {e f : Error} : e.message = f.message ↔ e = f := by
  refine ⟨fun h => ?_, congrArg message⟩
  have hinitial := initial_eq_of_message h
  unfold message at h
  have hdigit : ": ".toList.head?.map Char.isDigit = some false := by decide
  cases e with
  | contractViolation expected place found =>
    cases f with
    | contractViolation expected' place' found' =>
      simpa only [List.append_assoc, List.append_cancel_left_eq, Kind.name_append_inj,
        describePlace_append_inj, Text.quoted_inj, contractViolation.injEq] using h
    | _ => simp [initial] at hinitial
  | noRecognizedToken place found =>
    cases f with
    | noRecognizedToken place' found' =>
      simpa only [List.append_assoc, List.append_cancel_left_eq,
        describePlace_append_inj, Text.quoted_inj, noRecognizedToken.injEq] using h
    | _ => simp [initial] at hinitial
  | unbalancedNesting depth =>
    cases f with
    | unbalancedNesting depth' =>
      simpa only [List.append_assoc, List.append_cancel_left_eq,
        List.append_cancel_right_eq, Text.signedDecimal_inj, unbalancedNesting.injEq] using h
    | _ => simp [initial] at hinitial
  | trailingInput offset found =>
    cases f with
    | trailingInput offset' found' =>
      simpa only [List.append_assoc, List.append_cancel_left_eq,
        Text.decimal_append_inj hdigit, Text.quoted_inj, trailingInput.injEq] using h
    | _ => simp [initial] at hinitial
  | invalidComposedKey key reason =>
    cases f with
    | invalidComposedKey key' reason' =>
      simpa only [List.append_assoc, List.append_cancel_left_eq, Text.quoted_append_inj,
        invalidComposedKey.injEq] using h
    | _ => simp [initial] at hinitial
  | settings text =>
    cases f with
    | settings text' => exact congrArg settings (List.append_cancel_left h)
    | _ => simp [initial] at hinitial

/-- A key and a reason cannot trade the colon that stands between them. -/
example : (invalidComposedKey "a".toList "b\": c".toList).message ≠
    (invalidComposedKey "a\": b".toList "c".toList).message := by
  decide

end Error
end TreeDump
