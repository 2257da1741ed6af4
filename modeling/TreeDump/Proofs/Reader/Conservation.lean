import TreeDump.Proofs.Layout
import TreeDump.Proofs.Reader.Step
import TreeDump.Proofs.Token.Reading

/-! Nothing of a dump gets lost. What a run has consumed is a layout of the tokens that it has read,
and each of these stands in the dump as its payload says. -/
namespace TreeDump

/-- How a token of some kind is spelled, with the payload that a caller receives of it. -/
inductive Kind.Spells : Kind → Text → Text → Prop
  | openParen : Spells .openParen [] ['(']
  | closeParen : Spells .closeParen [] [')']
  | identifier (name : Text) : Spells .identifier name name
  | doubleQuoted (content : Text) : Spells .doubleQuoted content ('"' :: (content ++ ['"']))
  | singleQuoted (content : Text) : Spells .singleQuoted content ('\'' :: (content ++ ['\'']))
  | bracketed (content : Text) : Spells .bracketed content ('[' :: (content ++ [']']))
  | key (name : Text) : Spells .key name (name ++ ['='])
  | location (place : Text) : Spells .location place place
  | declaration (name gap place : Text) (h : Text.GapOnly gap) :
    Spells .declaration (name ++ '@' :: place) (name ++ '@' :: (gap ++ place))

namespace Token

/-- A token that a caller may receive when asking for a kind. -/
structure FaithfulTo (asked : Kind) (token : Token) : Prop where
  kind : token.kind = asked ∨ asked = .identifierOrString ∧ token.kind ∈ alternatives
  text_ne_nil : token.text ≠ []
  trimmed : Text.Trimmed token.text
  spells : Kind.Spells token.kind token.payload token.text

lemma spells_of_read? {keys : KeyTable} {t rest : Text} {asked : Kind} {token : Token}
    (ht : Text.Trimmed t) (h : read? keys t asked = some (token, rest)) :
    Kind.Spells token.kind token.payload token.text := by
  cases token with
  | openParen => exact .openParen
  | closeParen => exact .closeParen
  | identifier name => exact .identifier name
  | doubleQuoted content => exact .doubleQuoted content
  | singleQuoted content => exact .singleQuoted content
  | bracketed content => exact .bracketed content
  | key name => exact .key name
  | location place => exact .location place.text
  | declaration declared =>
    have hw : declared.Written := written_of_read? ht h
    exact .declaration declared.name declared.gap declared.place.text hw.gap

lemma faithfulTo_of_read? {keys : KeyTable} {t rest : Text} {asked : Kind} {token : Token}
    (ht : Text.Trimmed t) (h : read? keys t asked = some (token, rest)) : token.FaithfulTo asked := by
  obtain ⟨happ, hne, _⟩ := of_read? h
  refine ⟨(read?_kind h).2, hne, ?_, spells_of_read? ht h⟩
  rw [← happ] at ht
  exact (Text.trimmed_append_iff hne rest).1 ht

end Token

namespace Reader

lemma faithfulTo_of_meet {r : Reader} (h : r.FlagSound) {request : Request} {asked : Kind}
    {token : Token} (ha : (r.meet request).answer = .token asked (.ok token)) :
    token.FaithfulTo asked := by
  cases request with
  | read kind =>
    simp only [meet, Answer.token.injEq] at ha
    obtain ⟨rfl, ha⟩ := ha
    obtain ⟨rest, hr⟩ := exists_of_read_ok ha
    exact Token.faithfulTo_of_read? h.trimmed_remaining hr
  | _ => cases ha

lemma faithfulTo_of_run {r : Reader} (h : r.FlagSound) (requests : List Request) :
    ∀ response ∈ (r.run requests).answer, ∀ asked token,
      response.answer = .token asked (.ok token) → token.FaithfulTo asked := by
  induction requests generalizing r with
  | nil =>
    intro response hm
    cases hm
  | cons request more ih =>
    intro response hm asked token ha
    rcases List.mem_cons.1 hm with rfl | hm
    · exact faithfulTo_of_meet h ha
    · exact ih (h.step (step_meet r request)) response hm asked token ha

/-- A step consumes a gap, and the token that it reads behind it. -/
lemma Step.consumed_eq {r s : Reader} {token : Option Token} (h : Step r token s) :
    ∃ gap, Text.GapOnly gap ∧ s.consumed = r.consumed ++ gap ++ (token.toList.flatMap Token.text) := by
  have hskip : ∃ gap, Text.GapOnly gap ∧ r.skipGap.consumed = r.consumed ++ gap := by
    unfold skipGap
    split
    · exact ⟨[], Text.gapOnly_nil, (List.append_nil _).symm⟩
    · exact ⟨_, Text.gapOnly_gap r.remaining, rfl⟩
  obtain ⟨gap, hg, hc⟩ := hskip
  cases h with
  | stay => exact ⟨[], Text.gapOnly_nil, by simp⟩
  | skip => exact ⟨gap, hg, by simp [hc]⟩
  | take found => exact ⟨gap, hg, by simp [accept, hc]⟩

/-- The consumed text grows by a layout of the tokens read. -/
lemma consumed_run (r : Reader) (requests : List Request) :
    ∃ layout : Layout, layout.GapsOnly ∧ layout.tokens = (r.run requests).tokens ∧
      (r.run requests).reader.consumed = r.consumed ++ layout.text := by
  induction requests generalizing r with
  | nil => exact ⟨.last [], Text.gapOnly_nil, rfl, (List.append_nil _).symm⟩
  | cons request more ih =>
    obtain ⟨layout, hg, ht, hc⟩ := ih (r.meet request).reader
    obtain ⟨gap, hgap, hstep⟩ := (step_meet r request).consumed_eq
    rw [tokens_run_cons, ← ht]
    change ∃ _, _ ∧ _ ∧ ((r.meet request).reader.run more).reader.consumed = _
    rw [hc, hstep]
    cases (r.meet request).answer.token? with
    | none =>
      refine ⟨layout.prepend gap, hg.prepend hgap, by simp, ?_⟩
      simp
    | some token =>
      refine ⟨.next gap token layout, ⟨hgap, hg⟩, rfl, ?_⟩
      simp [Layout.text]

/-- What a run consumes it takes off the front of what remains. -/
lemma remaining_eq_of_run (r : Reader) (requests : List Request) :
    ∃ layout : Layout, layout.GapsOnly ∧ layout.tokens = (r.run requests).tokens ∧
      r.remaining = layout.text ++ (r.run requests).reader.remaining := by
  obtain ⟨layout, hg, ht, hc⟩ := consumed_run r requests
  refine ⟨layout, hg, ht, ?_⟩
  have hdump := dump_run r requests
  rw [dump, dump, hc, List.append_assoc] at hdump
  exact (List.append_cancel_left hdump).symm

/-- What has been consumed of a dump is the tokens read so far, in order, with gaps before, between
and behind them, and the rest of the dump remains. The sink has these tokens too. None is empty or
begins with a gap, and each is spelled as its payload says. -/
theorem run_conserves_text (dump : Text) (keys : KeyTable) (sink : Option Sink)
    (requests : List Request) :
    let reply := (ofText dump keys sink).run requests
    (∃ layout : Layout, layout.GapsOnly ∧ layout.tokens = reply.tokens ∧
      reply.reader.consumed = layout.text ∧ reply.reader.offset = Text.utf8Size layout.text) ∧
    dump = reply.reader.consumed ++ reply.reader.remaining ∧
    reply.reader.sink = sink.map (Sink.recordAll reply.tokens) ∧
    ∀ response ∈ reply.answer, ∀ asked token,
      response.answer = .token asked (.ok token) → token.FaithfulTo asked := by
  intro reply
  refine ⟨?_, ?_, sink_run _ requests, faithfulTo_of_run (flagSound_ofText dump keys sink) requests⟩
  · obtain ⟨layout, hg, ht, hc⟩ := consumed_run (ofText dump keys sink) requests
    have hl : reply.reader.consumed = layout.text := hc
    exact ⟨layout, hg, ht, hl, congrArg Text.utf8Size hl⟩
  · exact (dump_run (ofText dump keys sink) requests).symm

end Reader
end TreeDump
