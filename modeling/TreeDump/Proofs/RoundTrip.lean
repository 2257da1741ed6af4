import TreeDump.Proofs.Layout
import TreeDump.Proofs.Reader.Step

/-! Reading undoes writing. A reader that asks for the tokens of a layout, in order, gets every one of
them back exactly if no token runs on into what is written behind it. -/
namespace TreeDump

def Response.payload? (response : Response) : Option Text :=
  response.answer.token?.map Token.payload

def Layout.reads (layout : Layout) : List Request := layout.tokens.map fun token => .read token.kind

namespace Reader

/-- A written token at the cursor is read with what it takes in of the text behind it. -/
lemma read_written {r : Reader} (plain : r.keys.Plain) (h : r.FlagSound) {gap rest : Text}
    {token : Token} (hr : r.remaining = gap ++ (token.text ++ rest)) (hg : Text.GapOnly gap)
    (hw : token.Written r.keys) :
    ∃ events, r.read token.kind =
      ⟨.ok (token.extend (token.overrun rest)),
        r.skipGap.accept (token.extend (token.overrun rest))
          (rest.drop (token.overrun rest).length), events⟩ := by
  have ht : Text.Trimmed (token.text ++ rest) :=
    (Text.trimmed_append_iff hw.text_ne_nil rest).2 hw.trimmed_text
  have hs : r.skipGap.remaining = token.text ++ rest := by
    rw [h.remaining_skipGap, hr, Text.skipGap_append_trimmed hg ht]
  have hread := Token.read?_text_append plain hw rest
  rw [← hs, ← keys_skipGap] at hread
  exact ⟨_, read_of_some hread⟩

/-- A run over a layout begins with the read of its first token. What the token takes in of the text
behind it is missing from what the rest of the run sees. -/
lemma run_reads_next {r : Reader} (plain : r.keys.Plain) (h : r.FlagSound) {gap : Text}
    {token : Token} {more : Layout} (hr : r.remaining = (Layout.next gap token more).text)
    (hg : Text.GapOnly gap) (hw : token.Written r.keys) :
    let taken := token.overrun more.text
    let s := r.skipGap.accept (token.extend taken) (more.text.drop taken.length)
    (r.run (Layout.next gap token more).reads).answer =
        ⟨.token token.kind (.ok (token.extend taken)), s.mark⟩ :: (s.run more.reads).answer ∧
      (r.run (Layout.next gap token more).reads).reader = (s.run more.reads).reader := by
  intro taken s
  obtain ⟨events, hread⟩ := read_written plain h hr hg hw
  change (r.run (.read token.kind :: more.reads)).answer = _ ∧
    (r.run (.read token.kind :: more.reads)).reader = _
  constructor
  · simp only [run, meet, hread]
    rfl
  · simp only [run, meet, hread]
    rfl

/-- The payloads come back unchanged exactly if the tokens are kept apart. -/
theorem payloads_run_iff {r : Reader} (plain : r.keys.Plain) (h : r.FlagSound) {layout : Layout}
    (hr : r.remaining = layout.text) (hg : layout.GapsOnly)
    (hw : ∀ token ∈ layout.tokens, token.Written r.keys) :
    (r.run layout.reads).answer.map Response.payload? =
        layout.tokens.map (fun token => some token.payload) ↔ layout.KeptApart := by
  induction layout generalizing r with
  | last gap => simp [Layout.reads, Layout.tokens, Layout.KeptApart]
  | next gap token more ih =>
    have hwt := hw token List.mem_cons_self
    have hp : (token.extend (token.overrun more.text)).payload = token.payload ↔
        token.EndsBefore more.text := by
      rw [Token.payload_extend_overrun, List.append_right_eq_self, Token.overrun_eq_nil_iff hwt]
    change _ = _ :: _ ↔ _ ∧ _
    rw [(run_reads_next plain h hr hg.1 hwt).1, List.map_cons, List.cons.injEq]
    simp only [Response.payload?, Answer.token?, Option.map_some, Option.some.injEq, hp]
    apply and_congr_right
    intro he
    -- A token that is read alone leaves the reader in front of the next one, so the rest is the same.
    have ho := (Token.overrun_eq_nil_iff hwt more.text).2 he
    simp only [ho, List.length_nil, List.drop_zero, Token.extend_nil]
    apply ih
    · rw [keys_accept]
      exact plain
    · exact flagSound_accept _ _ _
    · rfl
    · exact hg.2
    · intro t ht
      rw [keys_accept]
      exact hw t (List.mem_cons_of_mem token ht)

/-- Tokens that are kept apart are read one by one, up to the gap behind the last. -/
theorem run_of_keptApart {r : Reader} (plain : r.keys.Plain) (h : r.FlagSound) {layout : Layout}
    (hr : r.remaining = layout.text) (hg : layout.GapsOnly)
    (hw : ∀ token ∈ layout.tokens, token.Written r.keys) (apart : layout.KeptApart) :
    (r.run layout.reads).answer.map Response.answer =
        layout.tokens.map (fun token => .token token.kind (.ok token)) ∧
      (r.run layout.reads).reader.remaining = layout.finalGap := by
  induction layout generalizing r with
  | last gap => exact ⟨rfl, hr⟩
  | next gap token more ih =>
    have hwt := hw token List.mem_cons_self
    have ho := (Token.overrun_eq_nil_iff hwt more.text).2 apart.1
    obtain ⟨hanswer, hreader⟩ := run_reads_next plain h hr hg.1 hwt
    simp only [ho, List.length_nil, List.drop_zero, Token.extend_nil] at hanswer hreader
    have hplain : (r.skipGap.accept token more.text).keys.Plain := by
      rw [keys_accept]
      exact plain
    have hmore : ∀ t ∈ more.tokens, t.Written (r.skipGap.accept token more.text).keys := by
      intro t ht
      rw [keys_accept]
      exact hw t (List.mem_cons_of_mem token ht)
    have htail := ih hplain (flagSound_accept _ _ _) rfl hg.2 hmore apart.2
    rw [hanswer, hreader, List.map_cons, htail.1]
    exact ⟨rfl, htail.2⟩

end Reader

namespace Layout

/-- Decoding undoes encoding. Of a dump that is written as a layout, the reads of its tokens give
their payloads back exactly if the tokens are kept apart, and a gap between each two will do for that.
They then give back the tokens themselves, the sink has them too, nothing but the last gap is left, the
depth is the count of opening less that of closing parentheses, and the end of the dump is accepted
exactly if the two are as many. -/
theorem run_reads (keys : KeyTable) (plain : keys.Plain) (layout : Layout) (gaps : layout.GapsOnly)
    (written : ∀ token ∈ layout.tokens, token.Written keys) (sink : Option Sink) :
    let reply := (Reader.ofText layout.text keys sink).run layout.reads
    let depth : Int := layout.tokens.count .openParen - layout.tokens.count .closeParen
    (reply.answer.map Response.payload? = layout.tokens.map (fun token => some token.payload) ↔
        layout.KeptApart) ∧
      (layout.Spaced → layout.KeptApart) ∧
      (layout.KeptApart →
        reply.answer.map Response.answer =
            layout.tokens.map (fun token => .token token.kind (.ok token)) ∧
          reply.reader.sink = sink.map (Sink.recordAll layout.tokens) ∧
          reply.reader.remaining = layout.finalGap ∧
          reply.reader.depth = depth ∧
          reply.reader.finish = if depth = 0 then .ok () else .error (.unbalancedNesting depth)) := by
  intro reply depth
  have flag := Reader.flagSound_ofText layout.text keys sink
  refine ⟨Reader.payloads_run_iff plain flag rfl gaps written, fun hs => hs.keptApart gaps, ?_⟩
  intro apart
  obtain ⟨hanswer, hrest⟩ := Reader.run_of_keptApart plain flag rfl gaps written apart
  have htokens : reply.tokens = layout.tokens := by
    have h := congrArg (List.filterMap Answer.token?) hanswer
    rw [List.filterMap_map, List.filterMap_map] at h
    exact h.trans (by simp [Function.comp_def, Answer.token?])
  have hdepth : reply.reader.depth = depth := by
    rw [Reader.depth_run, htokens, Token.sum_depthChange]
    exact Int.zero_add depth
  have hfinal : Text.GapOnly reply.reader.remaining := hrest ▸ gaps.finalGap
  refine ⟨hanswer, ?_, hrest, hdepth, ?_⟩
  · rw [Reader.sink_run, htokens]
    rfl
  · rw [Reader.finish_of_gapOnly (flag.run layout.reads) hfinal, hdepth]

/-- A layout with hardly a gap: ` (a(b))'x y'`, a new line and `interface type=T@`, another one and
` a.c:1:2 :30:4[b] `. -/
def dense : Layout :=
  .next [' '] .openParen <|
  .next [] (.identifier "a(b)".toList) <|
  .next [] .closeParen <|
  .next [] (.singleQuoted "x y".toList) <|
  .next ['\n'] (.key "interface type".toList) <|
  .next [] (.declaration ⟨"T".toList, ['\n', ' '], ⟨"a.c".toList, ['1'], ['2']⟩⟩) <|
  .next [' '] (.location ⟨[], "30".toList, ['4']⟩) <|
  .next [] (.bracketed ['b']) <|
  .last [' ']

theorem run_reads_dense :
    KeyTable.standard.Plain ∧ dense.GapsOnly ∧ (∀ token ∈ dense.tokens, token.Written .standard) ∧
      dense.KeptApart ∧
      ((Reader.ofText dense.text .standard none).run dense.reads).answer.map Response.payload? =
        dense.tokens.map (fun token => some token.payload) ∧
      ((Reader.ofText dense.text .standard none).run dense.reads).reader.finish = .ok () := by
  have plain : KeyTable.standard.Plain := by decide
  have gaps : dense.GapsOnly := by decide
  have written : ∀ token ∈ dense.tokens, token.Written .standard := by decide
  have apart : dense.KeptApart := by decide
  have h := run_reads .standard plain dense gaps written none
  exact ⟨plain, gaps, written, apart, h.1.2 apart, (h.2.2 apart).2.2.2.2⟩

end Layout
end TreeDump
