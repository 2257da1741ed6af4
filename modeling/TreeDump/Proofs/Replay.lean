import TreeDump.Proofs.Reader.Conservation

/-! Gaps mean nothing. The tokens of a run, written anew with other gaps between them, are read again
by the same reads, with the same depths. -/
namespace TreeDump

/-- A read that succeeds: what was asked for, what was read, and the depth after it. -/
structure Success where
  asked : Kind
  token : Token
  depth : Int
  deriving DecidableEq, Repr

def Response.success? (response : Response) : Option Success :=
  match response.answer with
  | .token asked (.ok token) => some ⟨asked, token, response.mark.depth⟩
  | _ => none

lemma Response.map_token_success? (response : Response) :
    response.success?.map Success.token = response.answer.token? := by
  unfold success? Answer.token?
  cases response.answer with
  | token asked result => cases result <;> rfl
  | _ => rfl

lemma Response.success?_eq_none {response : Response} (h : response.answer.token? = none) :
    response.success? = none :=
  Option.map_eq_none_iff.1 (response.map_token_success?.trans h)

namespace Reply

def successes (reply : Reply (List Response)) : List Success :=
  reply.answer.filterMap Response.success?

/-- The reads that succeed in a run, to be asked for again. -/
def rereads (reply : Reply (List Response)) : List Request :=
  reply.successes.map fun success => .read success.asked

lemma tokens_eq_map_successes (reply : Reply (List Response)) :
    reply.tokens = reply.successes.map Success.token := by
  simp only [tokens, successes, List.map_filterMap, Response.map_token_success?]

end Reply

namespace Reader

variable {r s : Reader} {request : Request} {asked : Kind} {token : Token} {rest : Text}

lemma exists_read_of_token? (h : (r.meet request).answer.token? = some token) :
    ∃ asked rest, request = .read asked ∧
      Token.read? r.skipGap.keys r.skipGap.remaining asked = some (token, rest) := by
  cases request with
  | read asked =>
    cases hr : Token.read? r.skipGap.keys r.skipGap.remaining asked with
    | none =>
      simp only [meet, read_of_none hr] at h
      cases h
    | some p =>
      simp only [meet, read_of_some hr] at h
      cases h
      exact ⟨asked, p.2, rfl, hr⟩
  | _ => cases h

lemma meet_read_of_some
    (h : Token.read? r.skipGap.keys r.skipGap.remaining asked = some (token, rest)) :
    (r.meet (.read asked)).answer = .token asked (.ok token) ∧
      (r.meet (.read asked)).reader = r.skipGap.accept token rest := by
  simp only [meet, read_of_some h, and_self]

lemma successes_run_read
    (h : Token.read? r.skipGap.keys r.skipGap.remaining asked = some (token, rest))
    (more : List Request) :
    (r.run (.read asked :: more)).successes =
      ⟨asked, token, (r.meet (.read asked)).reader.depth⟩ ::
        ((r.meet (.read asked)).reader.run more).successes := by
  have hanswer := (meet_read_of_some h).1
  simp only [Reply.successes, run, List.filterMap_cons, Response.success?, hanswer]
  rfl

lemma successes_run_of_none (h : (r.meet request).answer.token? = none) (more : List Request) :
    (r.run (request :: more)).successes = ((r.meet request).reader.run more).successes := by
  have hnone : Response.success? ⟨(r.meet request).answer, (r.meet request).reader.mark⟩ = none :=
    Response.success?_eq_none h
  simp only [Reply.successes, run, List.filterMap_cons, hnone]

/-- A layout of the tokens that a run will read has nothing in it but gaps and what remains. -/
lemma mem_remaining_of_layout {requests : List Request} {layout : Layout} (hg : layout.GapsOnly)
    (ht : layout.tokens = (r.run requests).tokens) {c : Char} (hc : Text.isGap c = false)
    (hm : c ∈ layout.text) : c ∈ r.remaining := by
  obtain ⟨original, hgaps, htokens, hr⟩ := remaining_eq_of_run r requests
  rw [Layout.mem_text_iff hg hc, ht, ← htokens, ← Layout.mem_text_iff hgaps hc] at hm
  rw [hr]
  exact List.mem_append_left _ hm

/-- The reader of a dump and the reader of a replay, when both have read the same tokens. -/
structure InReplay (r s : Reader) : Prop where
  plain : r.keys.Plain
  flag : r.FlagSound
  flag' : s.FlagSound
  keys : s.keys = r.keys
  depth : s.depth = r.depth

/-- A request that reads no token is left out of the replay. -/
lemma InReplay.leave (h : InReplay r s) (hn : (r.meet request).answer.token? = none) :
    InReplay (r.meet request).reader s := by
  have hstep := step_meet r request
  rw [hn] at hstep
  refine ⟨?_, h.flag.step hstep, h.flag', h.keys.trans hstep.keys_eq.symm, ?_⟩
  · rw [hstep.keys_eq]
    exact h.plain
  · simp [hstep.depth_eq, h.depth]

/-- What is read of a dump can be read of its replay, behind whatever gap there now is. -/
lemma InReplay.read? (h : InReplay r s)
    (hr : Token.read? r.skipGap.keys r.skipGap.remaining asked = some (token, rest))
    {gap others : Text} (hg : Text.GapOnly gap) (ht : s.remaining = gap ++ (token.text ++ others))
    (ends : token.EndsBefore others) (unclosed : ']' ∈ others → ']' ∈ rest) :
    Token.read? s.skipGap.keys s.skipGap.remaining asked = some (token, others) := by
  obtain ⟨happ, hne, -⟩ := Token.of_read? hr
  have htrim : Text.Trimmed (token.text ++ others) := by
    have hthere := h.flag.trimmed_remaining
    rw [← happ] at hthere
    exact (Text.trimmed_append_iff hne others).2 ((Text.trimmed_append_iff hne rest).1 hthere)
  have hcursor : s.skipGap.remaining = token.text ++ others := by
    rw [h.flag'.remaining_skipGap, ht, Text.skipGap_append_trimmed hg htrim]
  rw [keys_skipGap] at hr
  rw [hcursor, keys_skipGap, h.keys]
  exact Token.read?_again h.plain h.flag.trimmed_remaining hr ends unclosed

lemma InReplay.meet_read (h : InReplay r s)
    (hr : Token.read? r.skipGap.keys r.skipGap.remaining asked = some (token, rest))
    {others : Text}
    (hs : Token.read? s.skipGap.keys s.skipGap.remaining asked = some (token, others)) :
    InReplay (r.meet (.read asked)).reader (s.meet (.read asked)).reader := by
  rw [(meet_read_of_some hr).2, (meet_read_of_some hs).2]
  refine ⟨?_, flagSound_accept _ _ _, flagSound_accept _ _ _, ?_, ?_⟩
  · rw [keys_accept]
    exact h.plain
  · rw [keys_accept, keys_accept, h.keys]
  · simp only [accept, depth_skipGap, h.depth]

/-- One after the other, the reads that succeed in a run succeed in a replay of its tokens. -/
lemma InReplay.run_rereads (h : InReplay r s) {requests : List Request} {layout : Layout}
    (gaps : layout.GapsOnly) (apart : layout.KeptApart)
    (same : layout.tokens = (r.run requests).tokens) (ht : s.remaining = layout.text) :
    (s.run (r.run requests).rereads).answer.map Response.success? =
        (r.run requests).successes.map some ∧
      (s.run (r.run requests).rereads).reader.remaining = layout.finalGap := by
  induction requests generalizing r s layout with
  | nil =>
    cases layout with
    | last gap => exact ⟨rfl, ht⟩
    | next gap token more => cases same
  | cons request more ih =>
    rw [tokens_run_cons] at same
    unfold Reply.rereads
    cases htoken : (r.meet request).answer.token? with
    | none =>
      rw [htoken] at same
      rw [successes_run_of_none htoken]
      exact ih (h.leave htoken) gaps apart same ht
    | some token =>
      obtain ⟨asked, rest, rfl, hfound⟩ := exists_read_of_token? htoken
      rw [htoken] at same
      cases layout with
      | last gap => cases same
      | next gap first others =>
        obtain ⟨rfl, hothers⟩ := List.cons.inj same
        -- A closing bracket further on in the replay belongs to a token that follows in the run too.
        have hunclosed : ']' ∈ others.text → ']' ∈ rest := by
          intro hm
          have hmem := mem_remaining_of_layout gaps.2 hothers (by decide) hm
          rwa [(meet_read_of_some hfound).2] at hmem
        have hagain := h.read? hfound gaps.1 ht apart.1 hunclosed
        obtain ⟨hanswer, hreader⟩ := meet_read_of_some hagain
        have hmeet := h.meet_read hfound hagain
        have hrest : (s.meet (.read asked)).reader.remaining = others.text := by
          rw [hreader]
          rfl
        obtain ⟨htail, hend⟩ := ih hmeet gaps.2 apart.2 hothers hrest
        rw [successes_run_read hfound, ← hmeet.depth]
        refine ⟨?_, hend⟩
        simp only [List.map_cons, ← htail]
        change Response.success? ⟨(s.meet (.read asked)).answer, _⟩ :: _ = _
        rw [hanswer]
        rfl

/-- Gaps between tokens mean nothing. Write the tokens that a run has read anew, with any gaps before
and behind them and some gap between each two: the reads that succeeded in the run succeed again, in
order, with the same tokens and depths. The sink gets the same records, and the end of the dump is
accepted exactly if every group is closed. -/
theorem run_replays (dump : Text) (keys : KeyTable) (plain : keys.Plain) (sink : Option Sink)
    (requests : List Request) (layout : Layout) (gaps : layout.GapsOnly) (spaced : layout.Spaced)
    (same : layout.tokens = ((ofText dump keys sink).run requests).tokens) :
    let reply := (ofText dump keys sink).run requests
    let replay := (ofText layout.text keys sink).run reply.rereads
    replay.answer.map Response.success? = reply.successes.map some ∧
      replay.reader.sink = reply.reader.sink ∧ replay.reader.depth = reply.reader.depth ∧
      (replay.reader.finish = .ok () ↔ replay.reader.depth = 0) := by
  intro reply replay
  have flag := flagSound_ofText layout.text keys sink
  have start : InReplay (ofText dump keys sink) (ofText layout.text keys sink) :=
    ⟨plain, flagSound_ofText dump keys sink, flag, rfl, rfl⟩
  obtain ⟨hanswer, hrest⟩ := start.run_rereads gaps (spaced.keptApart gaps) same rfl
  have hsuccesses : replay.successes = reply.successes := by
    have h := congrArg (List.filterMap id) hanswer
    rwa [List.filterMap_map, List.filterMap_map, Function.id_comp, Function.id_comp,
      List.filterMap_some] at h
  have htokens : replay.tokens = reply.tokens := by
    rw [Reply.tokens_eq_map_successes, Reply.tokens_eq_map_successes, hsuccesses]
  have hfinal : Text.GapOnly replay.reader.remaining := by
    rw [show replay.reader.remaining = layout.finalGap from hrest]
    exact gaps.finalGap
  refine ⟨hanswer, ?_, ?_, ?_⟩
  · rw [sink_run, sink_run, htokens]
    rfl
  · rw [depth_run, depth_run, htokens]
    rfl
  · have hfinish : replay.reader.finish = if replay.reader.depth = 0 then .ok ()
        else .error (.unbalancedNesting replay.reader.depth) :=
      finish_of_gapOnly (flag.run reply.rereads) hfinal
    rw [hfinish]
    by_cases hz : replay.reader.depth = 0 <;> simp [hz]

/-- A dump that is read with questions and failures in between. The bracket at the start of `[a'b`
opens no string there. -/
def sample : Text := "([a'b ')' interface type=T@ \n f g:1:2\n)x=:30:4\"c\"".toList

def sampleRequests : List Request :=
  [.canRead .key, .read .identifierOrString, .read .bracketed, .read .identifierOrString,
   .isEmpty, .read .identifierOrString, .read .key, .unrecognized, .read .declaration,
   .read .location, .read .closeParen, .remaining, .read .key, .read .location,
   .read .identifierOrString]

def sampleReplay : Layout :=
  .next ['\n'] .openParen <|
  .next [' '] (.identifier "[a'b".toList) <|
  .next [' ', '\n'] (.singleQuoted [')']) <|
  .next ['\n'] (.key "interface type".toList) <|
  .next [' ', ' '] (.declaration ⟨['T'], [' ', '\n', ' '], ⟨"f g".toList, ['1'], ['2']⟩⟩) <|
  .next [' '] .closeParen <|
  .next ['\n'] (.key ['x']) <|
  .next [' '] (.location ⟨[], ['3', '0'], ['4']⟩) <|
  .next ['\n', '\n'] (.doubleQuoted ['c']) <|
  .last []

theorem run_replays_sample :
    let reply := (ofText sample .standard (some (.recorder []))).run sampleRequests
    let replay := (ofText sampleReplay.text .standard (some (.recorder []))).run reply.rereads
    KeyTable.standard.Plain ∧ sampleReplay.GapsOnly ∧ sampleReplay.Spaced ∧
      sampleReplay.tokens = reply.tokens ∧
      replay.answer.map Response.success? = reply.successes.map some ∧
      replay.reader.finish = .ok () := by
  intro reply replay
  have plain : KeyTable.standard.Plain := by decide
  have gaps : sampleReplay.GapsOnly := by decide
  have spaced : sampleReplay.Spaced := by decide
  have same : sampleReplay.tokens = reply.tokens := by decide +kernel
  have h := run_replays sample .standard plain (some (.recorder [])) sampleRequests sampleReplay
    gaps spaced same
  exact ⟨plain, gaps, spaced, same, h.1, h.2.2.2.2 (by decide +kernel)⟩

end Reader
end TreeDump
