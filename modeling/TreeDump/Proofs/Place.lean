import Mathlib.Data.Prod.Lex
import TreeDump.Proofs.Gap
import TreeDump.Proofs.Slice

/-! Lines and columns. A place in a text is on one of its lines, as far in as the column says, and the
later of two places in one text has the greater position. -/
namespace TreeDump
namespace Text

/-- The lines of a text. A newline ends one and begins the next, so the last of them may be empty. -/
def lines (t : Text) : List Text := t.splitOn '\n'

/-- What a text has in front of its first newline. -/
def firstLine (t : Text) : Text := t.takeWhile (· != '\n')

lemma lines_cons (c : Char) (r : Text) :
    lines (c :: r) = if c = '\n' then [] :: lines r else (lines r).modifyHead (c :: ·) := by
  simp only [lines, List.splitOn_eq_splitOnP, List.splitOnP_cons_eq_if_modifyHead, beq_iff_eq]

lemma lines_append_newline (s t : Text) : lines (s ++ '\n' :: t) = lines s ++ lines t := by
  simp only [lines, List.splitOn_eq_splitOnP]
  exact List.splitOnP_append_cons s t (by decide)

lemma length_lines (t : Text) : (lines t).length = t.count '\n' + 1 := by
  induction t with
  | nil => rfl
  | cons c r ih =>
    rw [lines_cons, List.count_cons]
    by_cases hc : c = '\n'
    · simp [hc, ih]
    · simp [hc, ih]

lemma getElem?_zero_lines (t : Text) : (lines t)[0]? = some (firstLine t) := by
  induction t with
  | nil => rfl
  | cons c r ih =>
    rw [lines_cons, firstLine]
    by_cases hc : c = '\n'
    · simp [hc]
    · cases hr : lines r with
      | nil =>
        rw [hr] at ih
        cases ih
      | cons line others =>
        rw [hr] at ih
        obtain rfl : line = firstLine r := by simpa using ih
        simp [hc, firstLine]

lemma firstLine_append {s : Text} (h : '\n' ∉ s) (t : Text) : firstLine (s ++ t) = s ++ firstLine t :=
  List.takeWhile_append_of_pos (bne_of_not_mem h)

/-- Where a text is cut, the line numbered by the newlines in front of the cut goes through it, and the
column of the cut tells how much of this line is in front. -/
theorem exists_line (s t : Text) :
    ∃ last, (lines (s ++ t))[s.count '\n']? = some (last ++ firstLine t) ∧
      (Place.start.after s).column = last.length + 1 := by
  rcases lastNewline?_spec s with ⟨-, hs⟩ | ⟨before, last, rfl, hlast, -⟩
  · refine ⟨s, ?_, ?_⟩
    · rw [List.count_eq_zero_of_not_mem hs, getElem?_zero_lines, firstLine_append hs]
    · rw [Place.column_after_of_no_newline hs, Nat.add_comm]
      rfl
  · refine ⟨last, ?_, Place.column_after_newline before hlast Place.start⟩
    have hcount : (before ++ '\n' :: last).count '\n' = (lines before).length := by
      simp [length_lines, List.count_eq_zero_of_not_mem hlast]
    rw [hcount, List.append_assoc, List.cons_append, lines_append_newline,
      List.getElem?_append_right (Nat.le_refl _), Nat.sub_self, getElem?_zero_lines,
      firstLine_append hlast]

end Text

namespace Place

/-- Line and column of a place, compared by line first. -/
def position (p : Place) : ℕ ×ₗ ℕ := toLex (p.line, p.column)

lemma position_lt_step (p : Place) (c : Char) : p.position < (p.step c).position := by
  rw [position, position, Prod.Lex.toLex_lt_toLex]
  unfold step
  split
  · exact .inl (Nat.lt_succ_self p.line)
  · exact .inr ⟨rfl, Nat.lt_succ_self p.column⟩

lemma position_le_after (p : Place) (t : Text) : p.position ≤ (p.after t).position := by
  induction t generalizing p with
  | nil => exact le_refl _
  | cons c r ih => exact (position_lt_step p c).le.trans (ih (p.step c))

lemma position_lt_after (p : Place) {t : Text} (h : t ≠ []) : p.position < (p.after t).position := by
  cases t with
  | nil => exact absurd rfl h
  | cons c r => exact (position_lt_step p c).trans_le (position_le_after (p.step c) r)

lemma offset_lt_after (p : Place) {t : Text} (h : t ≠ []) : p.offset < (p.after t).offset := by
  have hlength := List.length_pos_iff.2 h
  have hsize := Text.length_le_utf8Size t
  rw [offset_after]
  omega

/-- Of two places in one text the one with the greater offset has the greater position. -/
theorem position_lt_iff {dump s t : Text} (hs : s <+: dump) (ht : t <+: dump) (p : Place) :
    (p.after s).position < (p.after t).position ↔ (p.after s).offset < (p.after t).offset := by
  rcases List.prefix_or_prefix_of_prefix hs ht with ⟨more, rfl⟩ | ⟨more, rfl⟩
  · rw [after_append]
    by_cases hmore : more = []
    · subst hmore
      simp
    · exact iff_of_true (position_lt_after _ hmore) (offset_lt_after _ hmore)
  · rw [after_append]
    apply iff_of_false
    · exact (position_le_after _ more).not_gt
    · rw [offset_after _ more]
      omega

/-- So neither of the two is lost where only the other is kept. -/
theorem position_eq_iff {dump s t : Text} (hs : s <+: dump) (ht : t <+: dump) (p : Place) :
    (p.after s).position = (p.after t).position ↔ (p.after s).offset = (p.after t).offset := by
  have hlt := position_lt_iff hs ht p
  have hgt := position_lt_iff ht hs p
  rw [eq_iff_le_not_lt, eq_iff_le_not_lt, ← not_lt, ← not_lt, hlt, hgt]

end Place
end TreeDump
