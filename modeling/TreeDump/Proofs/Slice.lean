import Mathlib.Tactic.Lemma
import TreeDump.Text.Place

/-! Texts cut at offsets in bytes. A cut has to fall between two characters, and a slice must not end
before it starts; what breaks this rule gets no answer. -/
namespace TreeDump
namespace Text

/-- The two parts of a text before and after an offset. There are none if the offset lies inside a
character or behind the end. -/
def cut? : Text → Nat → Option (Text × Text)
  | t, 0 => some ([], t)
  | [], _ + 1 => none
  | c :: r, n + 1 =>
    if c.utf8Size ≤ n + 1 then (cut? r (n + 1 - c.utf8Size)).map fun (s, t) => (c :: s, t) else none

def upTo? (t : Text) (stop : Nat) : Option Text := (cut? t stop).map Prod.fst

def from? (t : Text) (start : Nat) : Option Text := (cut? t start).map Prod.snd

/-- The part of a text between two offsets. -/
def slice? (t : Text) (start stop : Nat) : Option Text :=
  if start ≤ stop then (from? t start).bind fun r => upTo? r (stop - start) else none

/-- A difference that must not be negative. -/
def minus? (m n : Nat) : Option Nat := if n ≤ m then some (m - n) else none

/-- The offset of the last newline of a text. -/
def lastNewline? : Text → Option Nat
  | [] => none
  | c :: r =>
    match lastNewline? r with
    | some n => some (c.utf8Size + n)
    | none => if c = '\n' then some 0 else none

/-- The offset at which the last line of a text begins. -/
def lineStart (t : Text) : Nat :=
  match lastNewline? t with
  | some n => n + 1
  | none => 0

lemma cut?_append (s t : Text) : cut? (s ++ t) (utf8Size s) = some (s, t) := by
  induction s with
  | nil => simp [cut?]
  | cons c r ih =>
    obtain ⟨n, hn⟩ : ∃ n, utf8Size (c :: r) = n + 1 :=
      Nat.exists_eq_add_one_of_ne_zero (by have := c.utf8Size_pos; simp only [utf8Size_cons]; omega)
    have hle : c.utf8Size ≤ n + 1 := by rw [← hn, utf8Size_cons]; exact Nat.le_add_right _ _
    have hrest : n + 1 - c.utf8Size = utf8Size r := by rw [← hn, utf8Size_cons]; omega
    rw [hn, List.cons_append, cut?, if_pos hle, hrest, ih]
    rfl

/-- A text can be cut behind each of its parts at the start, and nowhere else. -/
theorem cut?_eq_some_iff {t s r : Text} {n : Nat} :
    cut? t n = some (s, r) ↔ t = s ++ r ∧ utf8Size s = n := by
  constructor
  · intro h
    fun_induction cut? t n generalizing s with
    | case1 t => cases h; exact ⟨rfl, rfl⟩
    | case2 n => cases h
    | case3 c rest n hle ih =>
      obtain ⟨⟨s', r'⟩, hcut, he⟩ := Option.map_eq_some_iff.1 h
      cases he
      obtain ⟨hrest, hsize⟩ := ih hcut
      exact ⟨by rw [hrest]; rfl, by rw [utf8Size_cons]; omega⟩
    | case4 c rest n hle => cases h
  · rintro ⟨rfl, rfl⟩
    exact cut?_append s r

lemma upTo?_of_append {s r t : Text} (h : s ++ r = t) : upTo? t (utf8Size s) = some s := by
  rw [← h, upTo?, cut?_append]
  rfl

lemma from?_of_append {s r t : Text} (h : s ++ r = t) : from? t (utf8Size s) = some r := by
  rw [← h, from?, cut?_append]
  rfl

lemma slice?_of_append {s m r t : Text} (h : s ++ (m ++ r) = t) :
    slice? t (utf8Size s) (utf8Size s + utf8Size m) = some m := by
  rw [slice?, if_pos (Nat.le_add_right _ _), from?_of_append h, Nat.add_sub_cancel_left]
  exact upTo?_of_append rfl

/-- A slice is a part of the text, with its ends at the size of what stands before each. -/
theorem slice?_eq_some_iff {t m : Text} {start stop : Nat} :
    slice? t start stop = some m ↔
      ∃ s r, s ++ (m ++ r) = t ∧ utf8Size s = start ∧ utf8Size s + utf8Size m = stop := by
  constructor
  · intro h
    unfold slice? at h
    split at h
    · next hle =>
      obtain ⟨tail, hfrom, hupTo⟩ := Option.bind_eq_some_iff.1 h
      obtain ⟨⟨s, tail'⟩, hs, rfl⟩ := Option.map_eq_some_iff.1 hfrom
      obtain ⟨⟨m', r⟩, hm, he⟩ := Option.map_eq_some_iff.1 hupTo
      obtain rfl : m' = m := he
      obtain ⟨rfl, hstart⟩ := cut?_eq_some_iff.1 hs
      obtain ⟨htail, hstop⟩ := cut?_eq_some_iff.1 hm
      exact ⟨s, r, by rw [← htail], hstart, by omega⟩
    · cases h
  · rintro ⟨s, r, h, rfl, rfl⟩
    exact slice?_of_append h

lemma minus?_add (m n : Nat) : minus? (m + n) n = some m := by simp [minus?]

/-- Behind its last newline, or else from its start, a text goes on without one. -/
lemma lastNewline?_spec (t : Text) :
    (lastNewline? t = none ∧ '\n' ∉ t) ∨
      ∃ before last, t = before ++ '\n' :: last ∧ '\n' ∉ last ∧
        lastNewline? t = some (utf8Size before) := by
  induction t with
  | nil => exact .inl ⟨rfl, List.not_mem_nil⟩
  | cons c r ih =>
    rcases ih with ⟨hnone, hr⟩ | ⟨before, last, rfl, hlast, hsome⟩
    · by_cases hc : c = '\n'
      · subst hc
        exact .inr ⟨[], r, rfl, hr, by simp [lastNewline?, hnone]⟩
      · exact .inl ⟨by simp [lastNewline?, hnone, hc], by simp [hr, Ne.symm hc]⟩
    · exact .inr ⟨c :: before, last, rfl, hlast, by simp [lastNewline?, hsome]⟩

end Text

namespace Place

lemma column_after_of_no_newline {t : Text} (h : '\n' ∉ t) (p : Place) :
    (p.after t).column = p.column + t.length := by
  induction t generalizing p with
  | nil => rfl
  | cons c r ih =>
    obtain ⟨hc, hr⟩ := not_or.1 fun hm => h (List.mem_cons.2 hm)
    rw [after_cons, ih hr, step, if_neg (Ne.symm hc), List.length_cons]
    simp only
    omega

lemma column_after_newline (before : Text) {last : Text} (h : '\n' ∉ last) (p : Place) :
    (p.after (before ++ '\n' :: last)).column = last.length + 1 := by
  have hcolumn : ((p.after before).step '\n').column = 1 := rfl
  rw [after_append, after_cons, column_after_of_no_newline h, hcolumn, Nat.add_comm]

/-- The column counts the characters behind the last newline. -/
lemma from?_lineStart (t : Text) :
    ∃ last, Text.from? t (Text.lineStart t) = some last ∧
      (start.after t).column = last.length + 1 := by
  unfold Text.lineStart
  rcases Text.lastNewline?_spec t with ⟨hnone, ht⟩ | ⟨before, last, rfl, hlast, hsome⟩
  · rw [hnone]
    refine ⟨t, by simp [Text.from?, Text.cut?], ?_⟩
    rw [column_after_of_no_newline ht, Nat.add_comm]
    rfl
  · have hsize : Text.utf8Size (before ++ ['\n']) = Text.utf8Size before + 1 := by
      rw [Text.utf8Size_append]
      rfl
    rw [hsome]
    refine ⟨last, ?_, column_after_newline before hlast start⟩
    simp only [← hsize]
    exact Text.from?_of_append (List.append_cons before '\n' last).symm

end Place
end TreeDump
