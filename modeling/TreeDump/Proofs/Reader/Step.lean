import Mathlib.Algebra.Ring.Int.Defs
import TreeDump.Proofs.Gap
import TreeDump.Reader.Request

/-! What one request can do to a reader, and what every run of requests keeps. Each state of a reader
comes from the one before it in one of three ways, so a property of runs needs three cases. -/
namespace TreeDump

def Answer.token? : Answer → Option Token
  | .token _ (.ok found) => some found
  | _ => none

def Reply.tokens (reply : Reply (List Response)) : List Token :=
  reply.answer.filterMap fun response => response.answer.token?

/-- What tokens add to a depth is the parentheses that they open, less those that they close. -/
lemma Token.sum_depthChange (tokens : List Token) :
    (tokens.map depthChange).sum = (tokens.count openParen : Int) - tokens.count closeParen := by
  induction tokens with
  | nil => rfl
  | cons token more ih =>
    rw [List.map_cons, List.sum_cons, ih]
    cases token <;> simp [depthChange] <;> omega

def Sink.recordAll (tokens : List Token) : Sink → Sink
  | recorder seen => recorder (seen ++ tokens)
  | forwarder => forwarder

@[simp] lemma Sink.recordAll_nil : recordAll [] = id := by
  funext sink
  cases sink <;> simp [recordAll]

@[simp] lemma Sink.recordAll_singleton (token : Token) : recordAll [token] = record token := by
  funext sink
  cases sink <;> rfl

lemma Sink.recordAll_append (first others : List Token) :
    recordAll (first ++ others) = recordAll others ∘ recordAll first := by
  funext sink
  cases sink <;> simp [recordAll]

namespace Reader

/-- The flag is up only where no gap is left to skip. -/
def FlagSound (r : Reader) : Prop := r.trimmed = true → Text.Trimmed r.remaining

lemma exists_of_read_ok {r : Reader} {asked : Kind} {token : Token}
    (h : (r.read asked).answer = .ok token) :
    ∃ rest, Token.read? r.skipGap.keys r.skipGap.remaining asked = some (token, rest) := by
  cases hr : Token.read? r.skipGap.keys r.skipGap.remaining asked with
  | none =>
    rw [read_of_none hr] at h
    cases h
  | some p =>
    rw [read_of_some hr] at h
    cases h
    exact ⟨p.2, rfl⟩

lemma read?_eq_none_of_error {r : Reader} {asked : Kind} {e : Error}
    (h : (r.read asked).answer = .error e) :
    Token.read? r.skipGap.keys r.skipGap.remaining asked = none := by
  cases hr : Token.read? r.skipGap.keys r.skipGap.remaining asked with
  | none => rfl
  | some p =>
    rw [read_of_some hr] at h
    cases h

lemma error_of_read {r : Reader} {asked : Kind} {e : Error} (h : (r.read asked).answer = .error e) :
    e = .contractViolation asked r.skipGap.place r.skipGap.found := by
  rw [read_of_none (read?_eq_none_of_error h)] at h
  exact (Except.error.inj h).symm

/-- A reader before and after a request, with the token that it has read in between. -/
inductive Step (r : Reader) : Option Token → Reader → Prop
  | stay : Step r none r
  | skip : Step r none r.skipGap
  | take {asked token rest}
      (found : Token.read? r.skipGap.keys r.skipGap.remaining asked = some (token, rest)) :
      Step r (some token) (r.skipGap.accept token rest)

/-- These are all the steps there are. -/
theorem step_meet (r : Reader) (request : Request) :
    Step r (r.meet request).answer.token? (r.meet request).reader := by
  cases request with
  | canRead asked => exact .skip
  | read asked =>
    cases h : Token.read? r.skipGap.keys r.skipGap.remaining asked with
    | none =>
      simp only [meet, read_of_none h]
      exact .skip
    | some p =>
      simp only [meet, read_of_some h]
      exact .take h
  | unrecognized => exact .skip
  | remaining => exact .stay
  | isEmpty => exact .stay
  | look => exact .stay

lemma tokens_run_cons (r : Reader) (request : Request) (more : List Request) :
    (r.run (request :: more)).tokens =
      (r.meet request).answer.token?.toList ++ ((r.meet request).reader.run more).tokens := by
  change List.filterMap _ (_ :: _) = _
  rw [List.filterMap_cons]
  cases (r.meet request).answer.token? <;> simp [Reply.tokens]

@[simp] lemma depth_skipGap (r : Reader) : r.skipGap.depth = r.depth := by
  unfold skipGap
  split <;> rfl

@[simp] lemma keys_skipGap (r : Reader) : r.skipGap.keys = r.keys := by
  unfold skipGap
  split <;> rfl

@[simp] lemma keys_accept (r : Reader) (token : Token) (rest : Text) :
    (r.skipGap.accept token rest).keys = r.keys := keys_skipGap r

@[simp] lemma sink_skipGap (r : Reader) : r.skipGap.sink = r.sink := by
  unfold skipGap
  split <;> rfl

lemma FlagSound.remaining_skipGap {r : Reader} (h : r.FlagSound) :
    r.skipGap.remaining = Text.skipGap r.remaining := by
  unfold skipGap
  split
  · next ht => exact (Text.skipGap_of_trimmed (h ht)).symm
  · rfl

lemma FlagSound.consumed_skipGap {r : Reader} (h : r.FlagSound) :
    r.skipGap.consumed = r.consumed ++ Text.gap r.remaining := by
  unfold skipGap
  split
  · next ht => simp [Text.gap_of_trimmed (h ht)]
  · rfl

lemma FlagSound.trimmed_remaining {r : Reader} (h : r.FlagSound) :
    Text.Trimmed r.skipGap.remaining := by
  rw [h.remaining_skipGap]
  exact Text.trimmed_skipGap r.remaining

lemma finish_of_left {r : Reader} (h : r.skipGap.remaining ≠ []) :
    r.finish = .error (.trailingInput r.skipGap.offset r.skipGap.found) := by
  simp [finish, h]

lemma finish_of_none_left {r : Reader} (h : r.skipGap.remaining = []) :
    r.finish = if r.depth = 0 then .ok () else .error (.unbalancedNesting r.depth) := by
  simp [finish, h]

lemma finish_of_gapOnly {r : Reader} (h : r.FlagSound) (hg : Text.GapOnly r.remaining) :
    r.finish = if r.depth = 0 then .ok () else .error (.unbalancedNesting r.depth) := by
  apply finish_of_none_left
  rw [h.remaining_skipGap, Text.skipGap_of_gapOnly hg]

lemma flagSound_ofText (dump : Text) (keys : KeyTable) (sink : Option Sink) :
    (ofText dump keys sink).FlagSound := by
  intro h
  cases h

lemma flagSound_accept (token : Token) (rest : Text) (r : Reader) :
    (r.accept token rest).FlagSound := by
  intro h
  cases h

lemma FlagSound.step {r s : Reader} {token : Option Token} (h : r.FlagSound) (hs : Step r token s) :
    s.FlagSound := by
  cases hs with
  | stay => exact h
  | skip => exact fun _ => h.trimmed_remaining
  | take found => exact flagSound_accept _ _ _

/-- Every state that a run can reach has a sound flag. -/
theorem FlagSound.run {r : Reader} (h : r.FlagSound) (requests : List Request) :
    (r.run requests).reader.FlagSound := by
  induction requests generalizing r with
  | nil => exact h
  | cons request more ih => exact ih (h.step (step_meet r request))

lemma Step.keys_eq {r s : Reader} {token : Option Token} (h : Step r token s) : s.keys = r.keys := by
  cases h with
  | stay => rfl
  | skip => exact keys_skipGap r
  | take found => exact keys_accept r _ _

lemma Step.depth_eq {r s : Reader} {token : Option Token} (h : Step r token s) :
    s.depth = r.depth + (token.toList.map Token.depthChange).sum := by
  cases h with
  | stay => simp
  | skip => simp
  | take found => simp [accept]

lemma Step.sink_eq {r s : Reader} {token : Option Token} (h : Step r token s) :
    s.sink = r.sink.map (Sink.recordAll token.toList) := by
  cases h with
  | stay => simp
  | skip => simp
  | take found => simp [accept]

theorem keys_run (r : Reader) (requests : List Request) : (r.run requests).reader.keys = r.keys := by
  induction requests generalizing r with
  | nil => rfl
  | cons request more ih => exact (ih (r.meet request).reader).trans (step_meet r request).keys_eq

/-- The depth is the sum of what the tokens read so far add to it. -/
theorem depth_run (r : Reader) (requests : List Request) :
    (r.run requests).reader.depth =
      r.depth + ((r.run requests).tokens.map Token.depthChange).sum := by
  induction requests generalizing r with
  | nil => simp [run, Reply.tokens]
  | cons request more ih =>
    change ((r.meet request).reader.run more).reader.depth = _
    rw [tokens_run_cons, ih, (step_meet r request).depth_eq, List.map_append, List.sum_append]
    omega

/-- The sink has the tokens read so far, in the order in which they were read. -/
theorem sink_run (r : Reader) (requests : List Request) :
    (r.run requests).reader.sink = r.sink.map (Sink.recordAll (r.run requests).tokens) := by
  induction requests generalizing r with
  | nil => simp [run, Reply.tokens]
  | cons request more ih =>
    change ((r.meet request).reader.run more).reader.sink = _
    rw [tokens_run_cons, ih, (step_meet r request).sink_eq, Option.map_map, Sink.recordAll_append]

end Reader
end TreeDump
