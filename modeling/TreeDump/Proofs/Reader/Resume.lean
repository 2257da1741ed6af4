import Mathlib.Data.List.Induction
import TreeDump.Proofs.Reader.Step

/-! A reader has no memory but the text that remains to it. Reading on from a state is reading that
text afresh, with places and depth counted on from there. -/
namespace TreeDump
namespace Place

/-- A place in a text that itself begins at the place `base`. On its first line the columns count on
from there. -/
def shift (base p : Place) : Place where
  offset := base.offset + p.offset
  line := base.line + p.line - 1
  column := if p.line = 1 then base.column + p.column - 1 else p.column

/-- Lines and columns are counted from one. -/
lemma one_le_after (t : Text) : 1 ≤ (start.after t).line ∧ 1 ≤ (start.after t).column := by
  have h : ∀ p : Place, 1 ≤ p.line ∧ 1 ≤ p.column → 1 ≤ (p.after t).line ∧ 1 ≤ (p.after t).column := by
    induction t with
    | nil => exact fun p hp => hp
    | cons c r ih =>
      intro p hp
      apply ih
      unfold step
      split
      · exact ⟨Nat.le_add_left 1 _, Nat.le_refl 1⟩
      · exact ⟨hp.1, Nat.le_add_left 1 _⟩
  exact h start ⟨Nat.le_refl 1, Nat.le_refl 1⟩

lemma shift_step {p : Place} (hl : 1 ≤ p.line) (hc : 1 ≤ p.column) (base : Place) (c : Char) :
    base.shift (p.step c) = (base.shift p).step c := by
  unfold step
  split
  · have hn : p.line + 1 ≠ 1 := by omega
    simp only [shift, if_neg hn, Place.mk.injEq, and_true]
    omega
  · by_cases h1 : p.line = 1
    · simp only [shift, if_pos h1, Place.mk.injEq, true_and]
      omega
    · simp only [shift, if_neg h1, Place.mk.injEq, and_true]
      omega

/-- Places compose over a split of the text. -/
theorem after_eq_shift (base : Place) (t : Text) : base.after t = base.shift (start.after t) := by
  induction t using List.reverseRecOn with
  | nil => rfl
  | append_singleton t c ih =>
    have h := one_le_after t
    simp only [after_append, after_cons, after_nil, ih, shift_step h.1 h.2]

end Place

/-- A mark in a text that itself begins at the mark `base`. -/
def Mark.shift (base m : Mark) : Mark := ⟨base.place.shift m.place, base.depth + m.depth⟩

/-- An error of a reader that begins at the place `base`, as the reader of the whole text reports it. -/
def Error.shift (base : Place) : Error → Error
  | contractViolation expected place found => contractViolation expected (base.shift place) found
  | noRecognizedToken place found => noRecognizedToken (base.shift place) found
  | e => e

def Answer.shift (base : Place) : Answer → Answer
  | token asked (.error e) => token asked (.error (e.shift base))
  | error e => error (e.shift base)
  | answer => answer

def Response.shift (base : Mark) (response : Response) : Response :=
  ⟨response.answer.shift base.place, base.shift response.mark⟩

/-- The verdict at the end of a dump, from the verdict at the end of a part of it that begins at the
mark `base` and is read to this depth. What is left over is left over of both. -/
def Mark.verdict (base : Mark) (depth : Int) : Except Error Unit → Except Error Unit
  | .error (.trailingInput offset found) => .error (.trailingInput (base.place.offset + offset) found)
  | _ =>
    if base.depth + depth = 0 then .ok ()
    else .error (.unbalancedNesting (base.depth + depth))

namespace Reader

/-- The reader `r` has come from `base` as far as `s` has from the start of what remained to `base`. -/
structure Resumes (base r s : Reader) : Prop where
  consumed : r.consumed = base.consumed ++ s.consumed
  remaining : r.remaining = s.remaining
  depth : r.depth = base.depth + s.depth
  keys : r.keys = s.keys
  flag : r.FlagSound
  flag' : s.FlagSound

variable {base r s : Reader}

lemma Resumes.offset_eq (h : Resumes base r s) : r.offset = base.offset + s.offset := by
  unfold offset
  rw [h.consumed, Text.utf8Size_append]

lemma Resumes.place_eq (h : Resumes base r s) : r.place = base.place.shift s.place := by
  unfold place
  rw [h.consumed, Place.after_append, Place.after_eq_shift]

lemma Resumes.mark_eq (h : Resumes base r s) : r.mark = base.mark.shift s.mark := by
  unfold mark
  rw [h.place_eq, h.depth]
  rfl

lemma Resumes.found_eq (h : Resumes base r s) : r.found = s.found := by
  unfold found
  rw [h.remaining]

lemma Resumes.skipGap (h : Resumes base r s) : Resumes base r.skipGap s.skipGap where
  consumed := by
    rw [h.flag.consumed_skipGap, h.flag'.consumed_skipGap, h.consumed, h.remaining,
      List.append_assoc]
  remaining := by rw [h.flag.remaining_skipGap, h.flag'.remaining_skipGap, h.remaining]
  depth := by rw [depth_skipGap, depth_skipGap, h.depth]
  keys := by rw [keys_skipGap, keys_skipGap, h.keys]
  flag := fun _ => h.flag.trimmed_remaining
  flag' := fun _ => h.flag'.trimmed_remaining

lemma Resumes.accept (h : Resumes base r s) (token : Token) (rest : Text) :
    Resumes base (r.accept token rest) (s.accept token rest) where
  consumed := by simp only [Reader.accept, h.consumed, List.append_assoc]
  remaining := rfl
  depth := by simp only [Reader.accept, h.depth, Int.add_assoc]
  keys := h.keys
  flag := flagSound_accept token rest r
  flag' := flagSound_accept token rest s

lemma Resumes.meet_read (h : Resumes base r s) (asked : Kind) :
    (r.meet (.read asked)).answer = (s.meet (.read asked)).answer.shift base.place ∧
      Resumes base (r.read asked).reader (s.read asked).reader := by
  have hs := h.skipGap
  have hread : Token.read? r.skipGap.keys r.skipGap.remaining asked =
      Token.read? s.skipGap.keys s.skipGap.remaining asked := by rw [hs.keys, hs.remaining]
  cases hr : Token.read? s.skipGap.keys s.skipGap.remaining asked with
  | none =>
    simp only [Reader.meet, read_of_none hr, read_of_none (hread.trans hr), hs.place_eq,
      hs.found_eq]
    exact ⟨rfl, hs⟩
  | some p =>
    simp only [Reader.meet, read_of_some hr, read_of_some (hread.trans hr)]
    exact ⟨rfl, hs.accept p.1 p.2⟩

lemma Resumes.meet (h : Resumes base r s) (request : Request) :
    (r.meet request).answer = (s.meet request).answer.shift base.place ∧
      Resumes base (r.meet request).reader (s.meet request).reader := by
  have hs := h.skipGap
  cases request with
  | canRead asked =>
    refine ⟨?_, hs⟩
    simp only [Reader.meet, Reader.canRead, hs.keys, hs.remaining]
    rfl
  | read asked => exact h.meet_read asked
  | unrecognized =>
    refine ⟨?_, hs⟩
    simp only [Reader.meet, Reader.unrecognized, hs.place_eq, hs.found_eq]
    rfl
  | remaining =>
    refine ⟨?_, h⟩
    simp only [Reader.meet, h.remaining]
    rfl
  | isEmpty =>
    refine ⟨?_, h⟩
    simp only [Reader.meet, Reader.isEmpty, h.remaining]
    rfl
  | look => exact ⟨rfl, h⟩

/-- Two such readers stay together through every run, and answer alike. -/
lemma Resumes.run (h : Resumes base r s) (requests : List Request) :
    (r.run requests).answer = (s.run requests).answer.map (Response.shift base.mark) ∧
      Resumes base (r.run requests).reader (s.run requests).reader := by
  induction requests generalizing r s with
  | nil => exact ⟨rfl, h⟩
  | cons request more ih =>
    obtain ⟨hanswer, hmeet⟩ := h.meet request
    obtain ⟨hanswers, hrun⟩ := ih hmeet
    refine ⟨?_, hrun⟩
    simp only [Reader.run, hanswer, hanswers, hmeet.mark_eq]
    rfl

lemma Resumes.finish_eq (h : Resumes base r s) :
    r.finish = base.mark.verdict s.depth s.finish := by
  have hs := h.skipGap
  by_cases hleft : s.skipGap.remaining = []
  · have hleft' : r.skipGap.remaining = [] := hs.remaining.trans hleft
    rw [finish_of_none_left hleft', finish_of_none_left hleft, h.depth]
    by_cases hz : s.depth = 0
    · rw [if_pos hz]
      rfl
    · rw [if_neg hz]
      rfl
  · have hleft' : r.skipGap.remaining ≠ [] := hs.remaining ▸ hleft
    have ho : base.mark.place.offset = base.offset := offset_place base
    rw [finish_of_left hleft', finish_of_left hleft, hs.found_eq, hs.offset_eq, ← ho]
    rfl

lemma FlagSound.resumes (h : r.FlagSound) (sink : Option Sink) :
    Resumes r r (ofText r.remaining r.keys sink) where
  consumed := (List.append_nil _).symm
  remaining := rfl
  depth := (Int.add_zero _).symm
  keys := rfl
  flag := h
  flag' := flagSound_ofText _ _ _

/-- Reading on is reading afresh. Of any state that a run can reach, the later answers are those of a
new reader of what remains, with marks and errors counted on from that state, and so is the verdict in
the end. -/
theorem run_resumes (dump : Text) (keys : KeyTable) (sink fresh : Option Sink)
    (earlier later : List Request) :
    let r := ((ofText dump keys sink).run earlier).reader
    let reply := r.run later
    let afresh := (ofText r.remaining keys fresh).run later
    reply.answer = afresh.answer.map (Response.shift r.mark) ∧
      reply.reader.remaining = afresh.reader.remaining ∧
      reply.reader.mark = r.mark.shift afresh.reader.mark ∧
      reply.reader.offset = r.offset + afresh.reader.offset ∧
      reply.reader.finish = r.mark.verdict afresh.reader.depth afresh.reader.finish := by
  intro r reply afresh
  have flag : r.FlagSound := (flagSound_ofText dump keys sink).run earlier
  have hkeys : r.keys = keys := keys_run (ofText dump keys sink) earlier
  have h : Resumes r r (ofText r.remaining keys fresh) := by
    rw [← hkeys]
    exact flag.resumes fresh
  obtain ⟨hanswer, hrun⟩ := h.run later
  exact ⟨hanswer, hrun.remaining, hrun.mark_eq, hrun.offset_eq, hrun.finish_eq⟩

end Reader
end TreeDump
