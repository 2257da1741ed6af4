import Mathlib.Tactic.Lemma
import TreeDump.Text.Basic

/-! Runs of gap characters, and texts that begin with none. Every text is a run and then such a text,
in one way only. -/
namespace TreeDump
namespace Text

lemma bne_of_not_mem {c : Char} {t : Text} (h : c ∉ t) : ∀ d ∈ t, (d != c) = true := by
  intro d hd
  simp only [bne_iff_ne]
  rintro rfl
  exact h hd

/-- What stands in front of the first occurrence of a character. -/
lemma takeWhile_bne_append {c : Char} {s : Text} (h : c ∉ s) (rest : Text) :
    (s ++ c :: rest).takeWhile (· != c) = s := by
  rw [List.takeWhile_append_of_pos (bne_of_not_mem h)]
  simp

/-- A run of characters with a property ends in front of a text that begins with none. -/
lemma takeWhile_append_of_head {p : Char → Bool} {s t : Text} (hs : ∀ c ∈ s, p c = true)
    (ht : ∀ c ∈ t.head?, p c = false) : (s ++ t).takeWhile p = s := by
  rw [List.takeWhile_append_of_pos hs]
  cases t with
  | nil => simp
  | cons c r => simp [ht c rfl]

lemma dropWhile_append_of_head {p : Char → Bool} {s t : Text} (hs : ∀ c ∈ s, p c = true)
    (ht : ∀ c ∈ t.head?, p c = false) : (s ++ t).dropWhile p = t := by
  rw [List.dropWhile_append_of_pos hs]
  cases t with
  | nil => rfl
  | cons c r => simp [ht c rfl]

/-- So two texts that begin with such runs have the same run and the same rest. -/
lemma run_append_inj {p : Char → Bool} {s s' t t' : Text} (hs : ∀ c ∈ s, p c = true)
    (hs' : ∀ c ∈ s', p c = true) (ht : ∀ c ∈ t.head?, p c = false)
    (ht' : ∀ c ∈ t'.head?, p c = false) : s ++ t = s' ++ t' ↔ s = s' ∧ t = t' := by
  constructor
  · intro h
    constructor
    · rw [← takeWhile_append_of_head hs ht, h, takeWhile_append_of_head hs' ht']
    · rw [← dropWhile_append_of_head hs ht, h, dropWhile_append_of_head hs' ht']
  · rintro ⟨rfl, rfl⟩
    rfl

/-- A condition on the characters of a text is decided by looking at these, and not at all characters
that there are. -/
instance decidableForallMem (p : Char → Prop) [DecidablePred p] (t : Text) :
    Decidable (∀ c ∈ t, p c) := List.decidableBAll p t

instance decidableForallHead (p : Char → Prop) [DecidablePred p] (head : Option Char) :
    Decidable (∀ c ∈ head, p c) := Option.decidableForallMem head

/-- A run of spaces and newlines. It may be empty. -/
def GapOnly (g : Text) : Prop := ∀ c ∈ g, isGap c = true

/-- A text that leaves no gap to skip. -/
def Trimmed (t : Text) : Prop := ∀ c ∈ t.head?, isGap c = false

instance (g : Text) : Decidable (GapOnly g) := inferInstanceAs (Decidable (∀ c ∈ g, isGap c = true))

instance (t : Text) : Decidable (Trimmed t) :=
  inferInstanceAs (Decidable (∀ c ∈ t.head?, isGap c = false))

@[simp] lemma gapOnly_nil : GapOnly [] := by simp [GapOnly]

lemma GapOnly.append {g h : Text} (hg : GapOnly g) (hh : GapOnly h) : GapOnly (g ++ h) := by
  intro c hc
  rcases List.mem_append.1 hc with hc | hc
  · exact hg c hc
  · exact hh c hc

lemma gapOnly_gap (t : Text) : GapOnly (gap t) := List.all_eq_true.1 List.all_takeWhile

@[simp] lemma trimmed_cons (c : Char) (r : Text) : Trimmed (c :: r) ↔ isGap c = false := by
  simp [Trimmed]

lemma trimmed_skipGap (t : Text) : Trimmed (skipGap t) := by
  intro c hc
  cases h : skipGap t with
  | nil => simp [h] at hc
  | cons d r =>
    have hd := isGap_head_skipGap t d r h
    simp only [h, List.head?_cons, Option.mem_some_iff] at hc
    exact hc ▸ hd

/-- What follows a non-empty text does not matter for its start. -/
lemma trimmed_append_iff {s : Text} (hs : s ≠ []) (t : Text) : Trimmed (s ++ t) ↔ Trimmed s := by
  cases s with
  | nil => exact absurd rfl hs
  | cons c r => simp

lemma trimmed_takeWhile {t : Text} (ht : Trimmed t) (p : Char → Bool) : Trimmed (t.takeWhile p) := by
  cases t with
  | nil => exact ht
  | cons c r =>
    by_cases hc : p c = true
    · simpa [hc] using ht
    · simp [hc, Trimmed]

lemma skipGap_of_trimmed {t : Text} (ht : Trimmed t) : skipGap t = t := by
  cases t with
  | nil => rfl
  | cons c r => simp [skipGap, (trimmed_cons c r).1 ht]

lemma gap_of_trimmed {t : Text} (ht : Trimmed t) : gap t = [] := by
  have h := gap_append_skipGap t
  rw [skipGap_of_trimmed ht] at h
  exact List.append_left_eq_self.1 h

lemma skipGap_append {g : Text} (hg : GapOnly g) (t : Text) : skipGap (g ++ t) = skipGap t :=
  List.dropWhile_append_of_pos hg

lemma gap_append {g : Text} (hg : GapOnly g) (t : Text) : gap (g ++ t) = g ++ gap t :=
  List.takeWhile_append_of_pos hg

/-- A gap in front of a trimmed text is skipped, all of it and nothing more. -/
lemma skipGap_append_trimmed {g t : Text} (hg : GapOnly g) (ht : Trimmed t) :
    skipGap (g ++ t) = t := by
  rw [skipGap_append hg, skipGap_of_trimmed ht]

lemma gap_append_trimmed {g t : Text} (hg : GapOnly g) (ht : Trimmed t) : gap (g ++ t) = g := by
  rw [gap_append hg, gap_of_trimmed ht, List.append_nil]

/-- Only a gap is left where nothing remains after skipping. -/
lemma skipGap_of_gapOnly {g : Text} (hg : GapOnly g) : skipGap g = [] := by
  have h := skipGap_append hg []
  rwa [List.append_nil] at h

end Text
end TreeDump
