import TreeDump.Proofs.Reader.Step

/-! Asking changes nothing. Requests that read no token can be dropped from a run and added to it, and
what the other requests find stays the same. -/
namespace TreeDump

/-- A request in a list that is changed: kept as it is, dropped, or new. -/
inductive Edit where
  | keep (request : Request)
  | drop (request : Request)
  | add (request : Request)
  deriving DecidableEq, Repr

/-- Requests that look at the next token, and so skip the gap in front of it. The others only tell of
the reader. -/
def Request.seeksToken : Request → Bool
  | .canRead _ | .read _ | .unrecognized => true
  | .remaining | .isEmpty | .look => false

def Event.isFailure : Event → Bool
  | missingToken .. => true
  | _ => false

def Reply.successEvents {α : Type} (reply : Reply α) : List Event :=
  reply.events.filter fun event => !event.isFailure

namespace Edit

/-- The requests before the change. -/
def before : List Edit → List Request
  | [] => []
  | keep request :: more => request :: before more
  | drop request :: more => request :: before more
  | add _ :: more => before more

/-- The requests after the change. -/
def after : List Edit → List Request
  | [] => []
  | keep request :: more => request :: after more
  | drop _ :: more => after more
  | add request :: more => request :: after more

/-- What is dropped and what is added reads no token where the first run then stands: it is a question,
or it is a read that fails there. -/
def Harmless (r : Reader) : List Edit → Prop
  | [] => True
  | keep request :: more => Harmless (r.meet request).reader more
  | drop request :: more =>
    (r.meet request).answer.token? = none ∧ Harmless (r.meet request).reader more
  | add request :: more => (r.meet request).answer.token? = none ∧ Harmless r more

instance decidableHarmless (r : Reader) : (edits : List Edit) → Decidable (Harmless r edits)
  | [] => isTrue trivial
  | keep request :: more => decidableHarmless (r.meet request).reader more
  | drop request :: more =>
    @instDecidableAnd _ _ _ (decidableHarmless (r.meet request).reader more)
  | add _ :: more => @instDecidableAnd _ _ _ (decidableHarmless r more)

/-- The responses before and after a change, side by side. Those to a kept request agree: in the
depth, and in all if it looks at the next token. -/
inductive Agree : List Edit → List Response → List Response → Prop
  | nil : Agree [] [] []
  | keep {request : Request} {first second : Response} {edits firsts seconds}
      (depth : second.mark.depth = first.mark.depth)
      (same : request.seeksToken = true → second = first) (more : Agree edits firsts seconds) :
      Agree (keep request :: edits) (first :: firsts) (second :: seconds)
  | drop {request : Request} {first : Response} {edits firsts seconds}
      (more : Agree edits firsts seconds) : Agree (drop request :: edits) (first :: firsts) seconds
  | add {request : Request} {second : Response} {edits firsts seconds}
      (more : Agree edits firsts seconds) : Agree (add request :: edits) firsts (second :: seconds)

end Edit

namespace Reader

/-- Two readers that differ at most in whether the gap at the cursor has been skipped. -/
def Alike (r s : Reader) : Prop := r.skipGap = s.skipGap

lemma Alike.depth_eq {r s : Reader} (h : r.Alike s) : r.depth = s.depth := by
  rw [← depth_skipGap r, ← depth_skipGap s, h]

lemma Alike.sink_eq {r s : Reader} (h : r.Alike s) : r.sink = s.sink := by
  rw [← sink_skipGap r, ← sink_skipGap s, h]

/-- All that looks at the next token begins with skipping the gap. -/
lemma Alike.meet_eq {r s : Reader} (h : r.Alike s) {request : Request}
    (hs : request.seeksToken = true) : r.meet request = s.meet request := by
  unfold Alike at h
  cases request with
  | canRead asked => simp only [meet, canRead, h]
  | read asked => simp only [meet, read, h]
  | unrecognized => simp only [meet, unrecognized, h]
  | _ => cases hs

lemma meet_of_not_seeksToken (r : Reader) {request : Request} (hs : request.seeksToken = false) :
    (r.meet request).reader = r ∧ (r.meet request).events = [] := by
  cases request with
  | canRead asked => cases hs
  | read asked => cases hs
  | unrecognized => cases hs
  | _ => exact ⟨rfl, rfl⟩

/-- A request that reads no token leaves the reader as it was, but for the gap. -/
lemma alike_meet {r : Reader} {request : Request} (hn : (r.meet request).answer.token? = none) :
    (r.meet request).reader.Alike r := by
  have hstep := step_meet r request
  rw [hn] at hstep
  generalize (r.meet request).reader = s at hstep
  unfold Alike
  cases hstep with
  | stay => rfl
  | skip => exact skipGap_skipGap r

/-- Questions are harmless, whatever reader they are asked of. -/
lemma token?_meet_of_question (r : Reader) {request : Request}
    (hq : ∀ asked, request ≠ .read asked) : (r.meet request).answer.token? = none := by
  cases request with
  | read asked => exact absurd rfl (hq asked)
  | _ => rfl

lemma Alike.token?_meet {r s : Reader} (h : r.Alike s) (request : Request) :
    (r.meet request).answer.token? = (s.meet request).answer.token? := by
  cases hs : request.seeksToken with
  | true => rw [h.meet_eq hs]
  | false =>
    have hq : ∀ asked, request ≠ .read asked := by
      rintro asked rfl
      cases hs
    rw [r.token?_meet_of_question hq, s.token?_meet_of_question hq]

lemma Alike.meet {r s : Reader} (h : r.Alike s) (request : Request) :
    (r.meet request).reader.Alike (s.meet request).reader := by
  cases hs : request.seeksToken with
  | true => rw [h.meet_eq hs]; rfl
  | false =>
    rw [(r.meet_of_not_seeksToken hs).1, (s.meet_of_not_seeksToken hs).1]
    exact h

lemma Alike.finish_eq {r s : Reader} (h : r.Alike s) : r.finish = s.finish := by
  unfold finish
  rw [h]

/-- A request that reads no token leaves nothing in the journal but its own failure. -/
lemma successEvents_meet_eq_nil {r : Reader} {request : Request}
    (hn : (r.meet request).answer.token? = none) : (r.meet request).successEvents = [] := by
  cases request with
  | read asked =>
    cases hr : Token.read? r.skipGap.keys r.skipGap.remaining asked with
    | none => simp [Reader.meet, read_of_none hr, Reply.successEvents, Event.isFailure]
    | some p =>
      simp only [Reader.meet, read_of_some hr] at hn
      cases hn
  | _ => rfl

lemma Alike.successEvents_meet {r s : Reader} (h : r.Alike s) (request : Request) :
    (r.meet request).successEvents = (s.meet request).successEvents := by
  cases hs : request.seeksToken with
  | true => rw [h.meet_eq hs]
  | false =>
    simp only [Reply.successEvents, (r.meet_of_not_seeksToken hs).2, (s.meet_of_not_seeksToken hs).2]

lemma successEvents_run_cons (r : Reader) (request : Request) (more : List Request) :
    (r.run (request :: more)).successEvents =
      (r.meet request).successEvents ++ ((r.meet request).reader.run more).successEvents := by
  simp only [run, Reply.successEvents, List.filter_append]

/-- Two runs that differ by harmless requests stay side by side: all that ever sets their readers apart
is a gap that only one of them has skipped. -/
lemma Alike.run_edit {r s : Reader} (h : r.Alike s) {edits : List Edit}
    (harmless : Edit.Harmless r edits) :
    Edit.Agree edits (r.run (Edit.before edits)).answer (s.run (Edit.after edits)).answer ∧
      (s.run (Edit.after edits)).successEvents = (r.run (Edit.before edits)).successEvents ∧
      (r.run (Edit.before edits)).reader.Alike (s.run (Edit.after edits)).reader := by
  induction edits generalizing r s with
  | nil => exact ⟨.nil, rfl, h⟩
  | cons edit more ih =>
    cases edit with
    | keep request =>
      obtain ⟨hagree, hevents, halike⟩ := ih (h.meet request) harmless
      refine ⟨.keep (h.meet request).depth_eq.symm ?_ hagree, ?_, halike⟩
      · intro hs
        rw [h.meet_eq hs]
      · simp only [Edit.before, Edit.after, successEvents_run_cons, hevents, h.successEvents_meet request]
    | drop request =>
      obtain ⟨hn, hmore⟩ := harmless
      obtain ⟨hagree, hevents, halike⟩ := ih ((alike_meet hn).trans h) hmore
      refine ⟨.drop hagree, ?_, halike⟩
      simp only [Edit.before, Edit.after, successEvents_run_cons, hevents, successEvents_meet_eq_nil hn,
        List.nil_append]
    | add request =>
      obtain ⟨hn, hmore⟩ := harmless
      have hs : (s.meet request).answer.token? = none := (h.token?_meet request).symm.trans hn
      obtain ⟨hagree, hevents, halike⟩ := ih (h.trans (alike_meet hs).symm) hmore
      refine ⟨.add hagree, ?_, halike⟩
      simp only [Edit.before, Edit.after, successEvents_run_cons, hevents, successEvents_meet_eq_nil hs,
        List.nil_append]

/-- Asking and failing never changes what is read. Drop from a run any requests that read no token, and
add any such requests: every kept request that looks at the next token gets the same response, all of
them find the same depth, the sink and the journal of what was read are the same, and so is the
verdict in the end. -/
theorem run_edit_agrees (r : Reader) (edits : List Edit) (harmless : Edit.Harmless r edits) :
    let first := r.run (Edit.before edits)
    let second := r.run (Edit.after edits)
    Edit.Agree edits first.answer second.answer ∧ second.reader.sink = first.reader.sink ∧
      second.successEvents = first.successEvents ∧ second.reader.finish = first.reader.finish := by
  intro first second
  have h : r.Alike r := rfl
  obtain ⟨hagree, hevents, halike⟩ := h.run_edit harmless
  exact ⟨hagree, halike.sink_eq.symm, hevents, halike.finish_eq.symm⟩

/-- A change to a run over four tokens. Of the reads that fail, one is dropped and one is added. -/
def questions : List Edit :=
  [.add (.canRead .key), .keep (.read .openParen), .drop .isEmpty, .drop (.read .closeParen),
   .keep (.canRead .identifier), .add .unrecognized, .keep (.read .identifierOrString),
   .add (.read .location), .keep .remaining, .drop .unrecognized, .keep (.read .singleQuoted),
   .keep .unrecognized, .drop (.canRead .closeParen), .keep (.read .closeParen), .add .look]

theorem run_edit_agrees_questions :
    let r := ofText " (\n a 'b' ) ".toList .standard (some (.recorder []))
    Edit.Harmless r questions ∧
      Edit.Agree questions (r.run (Edit.before questions)).answer
        (r.run (Edit.after questions)).answer ∧
      (r.run (Edit.after questions)).reader.finish = .ok () := by
  intro r
  have harmless : Edit.Harmless r questions := by decide
  have h := run_edit_agrees r questions harmless
  exact ⟨harmless, h.1, h.2.2.2.trans (by decide +kernel)⟩

end Reader
end TreeDump
