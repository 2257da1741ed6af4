import Mathlib.Data.List.Infix
import TreeDump.Proofs.Token.Written

/-! Looking a key up in a table. The key that is found is the first of the table with which the text
begins. So a key behind one with which it begins itself is never found, and where no key begins with
another one, the order means nothing. -/
namespace TreeDump

namespace ComposedKey

lemma text_injective : Function.Injective text := by
  rintro ⟨a, ha⟩ ⟨b, hb⟩ h
  obtain rfl : a = b := List.append_cancel_right h
  rfl

lemma name_eq_dropLast (k : ComposedKey) : k.name = k.text.dropLast := by
  simp [text]

end ComposedKey

namespace KeyTable

variable {table other : KeyTable} {k : ComposedKey} {s t : Text}

lemma match?_of_first {before after : List ComposedKey} (hkeys : table.keys = before ++ k :: after)
    (hk : k.text <+: t) (first : ∀ e ∈ before, ¬ e.text <+: t) : table.match? t = some k := by
  rw [match?, List.find?_eq_some_iff_append]
  refine ⟨List.isPrefixOf_iff_prefix.2 hk, before, after, hkeys, ?_⟩
  intro e he
  rw [Bool.not_eq_true', Bool.eq_false_iff]
  exact fun hstart => first e he (List.isPrefixOf_iff_prefix.1 hstart)

lemma exists_first_of_match? (h : table.match? t = some k) :
    ∃ before after, table.keys = before ++ k :: after ∧ ∀ e ∈ before, ¬ e.text <+: t := by
  rw [match?, List.find?_eq_some_iff_append] at h
  obtain ⟨-, before, after, hkeys, first⟩ := h
  refine ⟨before, after, hkeys, ?_⟩
  intro e he hstart
  have hno := first e he
  rw [List.isPrefixOf_iff_prefix.2 hstart] at hno
  cases hno

lemma match?_eq_none_iff : table.match? t = none ↔ ∀ k ∈ table.keys, ¬ k.text <+: t := by
  simp only [match?, List.find?_eq_none, List.isPrefixOf_iff_prefix]

/-- In a part of a text that has the found key in it, the same key is found. -/
lemma match?_of_isPrefix (h : table.match? t = some k) (hk : k.text <+: s) (hs : s <+: t) :
    table.match? s = some k := by
  obtain ⟨before, after, hkeys, first⟩ := exists_first_of_match? h
  exact match?_of_first hkeys hk fun e he hstart => first e he (hstart.trans hs)

lemma match?_eq_none_of_isPrefix (h : table.match? t = none) (hs : s <+: t) :
    table.match? s = none := by
  rw [match?_eq_none_iff] at h ⊢
  exact fun k hk hstart => h k hk (hstart.trans hs)

/-- The keys of a list that begin with none in front of them, be it in the list or among those that are
`earlier` than all of it. A key that is left out hides others all the same. -/
def unshadowed (earlier : List ComposedKey) : List ComposedKey → List ComposedKey
  | [] => []
  | k :: more =>
    if earlier.any fun e => e.text.isPrefixOf k.text then unshadowed (k :: earlier) more
    else k :: unshadowed (k :: earlier) more

/-- The table without the keys that begin with an earlier one. Repetitions are among them. -/
def pruned (table : KeyTable) : KeyTable := ⟨unshadowed [] table.keys⟩

/-- A table where no key begins with a different one. -/
def PrefixFree (table : KeyTable) : Prop :=
  ∀ k ∈ table.keys, ∀ e ∈ table.keys, e.text <+: k.text → e = k

instance (table : KeyTable) : Decidable table.PrefixFree :=
  inferInstanceAs (Decidable (∀ k ∈ table.keys, ∀ e ∈ table.keys, e.text <+: k.text → e = k))

/-- A text that begins with none of the earlier keys begins with none that they hide. So of the keys with
which it begins, the first is still there. -/
lemma find?_unshadowed {earlier : List ComposedKey} (h : ∀ e ∈ earlier, ¬ e.text <+: t)
    (keys : List ComposedKey) :
    ((unshadowed earlier keys).find? fun k => k.text.isPrefixOf t) =
      keys.find? fun k => k.text.isPrefixOf t := by
  fun_induction unshadowed earlier keys with
  | case1 => rfl
  | case2 earlier k more hidden ih =>
    obtain ⟨e, he, hstart⟩ := List.any_eq_true.1 hidden
    have hk : ¬ k.text <+: t := fun hk => h e he ((List.isPrefixOf_iff_prefix.1 hstart).trans hk)
    have hnot := Bool.eq_false_iff.2 (mt List.isPrefixOf_iff_prefix.1 hk)
    simp only [List.find?_cons, hnot]
    exact ih (List.forall_mem_cons.2 ⟨hk, h⟩)
  | case3 earlier k more _ ih =>
    by_cases hk : k.text <+: t
    · have hfound := List.isPrefixOf_iff_prefix.2 hk
      simp only [List.find?_cons, hfound]
    · have hnot := Bool.eq_false_iff.2 (mt List.isPrefixOf_iff_prefix.1 hk)
      simp only [List.find?_cons, hnot]
      exact ih (List.forall_mem_cons.2 ⟨hk, h⟩)

/-- Pruning a table does not change what is found. -/
theorem match?_pruned (table : KeyTable) (t : Text) : table.pruned.match? t = table.match? t :=
  find?_unshadowed (by simp) table.keys

/-- Without prefixes among them, at most one of the keys stands at the start of a text. -/
lemma PrefixFree.match?_eq_some_iff (h : table.PrefixFree) :
    table.match? t = some k ↔ k ∈ table.keys ∧ k.text <+: t := by
  constructor
  · exact fun hm => ⟨List.mem_of_find?_eq_some hm, isPrefix_of_match? hm⟩
  · rintro ⟨hk, hstart⟩
    cases hm : table.match? t with
    | none => exact absurd hstart (match?_eq_none_iff.1 hm k hk)
    | some e =>
      have he : e ∈ table.keys := List.mem_of_find?_eq_some hm
      rcases List.prefix_or_prefix_of_prefix (isPrefix_of_match? hm) hstart with hp | hp
      · rw [h k hk e he hp]
      · rw [h e he k hk hp]

/-- Where no key begins with another one, neither the order of the keys nor their repetitions matter. -/
theorem PrefixFree.match?_eq (h : table.PrefixFree) (same : ∀ k, k ∈ other.keys ↔ k ∈ table.keys)
    (t : Text) : other.match? t = table.match? t := by
  have h' : other.PrefixFree :=
    fun k hk e he => h k ((same k).1 hk) e ((same e).1 he)
  ext k
  rw [h.match?_eq_some_iff, h'.match?_eq_some_iff, same]

lemma Plain.prefixFree (plain : table.Plain) : table.PrefixFree := by
  rintro k hk e he ⟨rest, hrest⟩
  apply ComposedKey.text_injective
  have hname : e.name = k.name := by
    apply Key.eq_of_text_append_eq (plain e he) (plain k hk)
    exact hrest.trans (List.append_nil _).symm
  simp only [ComposedKey.text, hname]

end KeyTable

namespace Key

variable {table : KeyTable} {k : ComposedKey} {t name rest : Text}

lemma read?_of_match? (h : table.match? (k.text ++ rest) = some k) :
    read? table (k.text ++ rest) = some (k.name, rest) := by
  simp [read?, h]

lemma read?_of_no_match (h : table.match? t = none) : read? table t = readGeneric? t := by
  simp [read?, h]

end Key
end TreeDump
