import Mathlib.Algebra.Group.Nat.Defs
import TreeDump.Proofs.Reader.Failure
import TreeDump.Proofs.Reader.Progress

/-! The depth of a reader, and the verdict that hangs on it. Only parentheses that are tokens count, and
each of them takes its place in the dump, so a counter of machine size never leaves its range. -/
namespace TreeDump

namespace Token

lemma count_parens_le (tokens : List Token) :
    tokens.count openParen + tokens.count closeParen ≤ tokens.length := by
  induction tokens with
  | nil => exact Nat.le_refl 0
  | cons token more ih => cases token <;> simp <;> omega

lemma natAbs_depthChange_le (token : Token) : token.depthChange.natAbs ≤ 1 := by
  cases token <;> simp [depthChange]

/-- What a token makes of a depth that is kept in 64 bits, unless it would take it out of range. -/
def count64? (depth : Int64) (token : Token) : Option Int64 :=
  let exact := depth.toInt + token.depthChange
  if -2 ^ 63 ≤ exact ∧ exact < 2 ^ 63 then some (Int64.ofInt exact) else none

/-- A counter that has room for as many tokens as there are stays in range at each of them. -/
lemma exists_foldlM_count64? (tokens : List Token) (depth : Int64)
    (room : depth.toInt.natAbs + tokens.length < 2 ^ 63) :
    ∃ counted, tokens.foldlM count64? depth = some counted ∧
      counted.toInt = depth.toInt + (tokens.map depthChange).sum := by
  induction tokens generalizing depth with
  | nil => exact ⟨depth, rfl, by simp⟩
  | cons token more ih =>
    have hchange := natAbs_depthChange_le token
    simp only [List.length_cons] at room
    have hlow : -2 ^ 63 ≤ depth.toInt + token.depthChange := by omega
    have hhigh : depth.toInt + token.depthChange < 2 ^ 63 := by omega
    have hnext : (Int64.ofInt (depth.toInt + token.depthChange)).toInt =
        depth.toInt + token.depthChange := Int64.toInt_ofInt_of_le hlow hhigh
    obtain ⟨counted, hfold, hsum⟩ := ih (Int64.ofInt (depth.toInt + token.depthChange)) (by
      rw [hnext]
      omega)
    refine ⟨counted, ?_, ?_⟩
    · simp only [List.foldlM_cons, count64?, if_pos (And.intro hlow hhigh)]
      exact hfold
    · rw [hsum, hnext, List.map_cons, List.sum_cons, Int.add_assoc]

lemma kind_eq_openParen_iff (token : Token) : token.kind = .openParen ↔ token = openParen := by
  cases token <;> simp [kind]

lemma kind_eq_closeParen_iff (token : Token) : token.kind = .closeParen ↔ token = closeParen := by
  cases token <;> simp [kind]

/-- An opening parenthesis is read by those who ask for one, and as the start of an identifier or string;
a closing one by those who ask for it. -/
lemma FaithfulTo.parens {asked : Kind} {token : Token} (h : token.FaithfulTo asked) :
    (asked = .openParen → token = openParen) ∧
    (token = openParen → asked = .openParen ∨ asked = .identifierOrString) ∧
    (token = closeParen ↔ asked = .closeParen) := by
  rw [← kind_eq_openParen_iff, ← kind_eq_closeParen_iff]
  rcases h.kind with hk | ⟨rfl, hm⟩
  · rw [hk]
    exact ⟨id, Or.inl, Iff.rfl⟩
  · refine ⟨nofun, fun _ => .inr rfl, ?_, nofun⟩
    intro hc
    rw [hc] at hm
    exact absurd hm (by decide)

end Token

namespace Reader

lemma FlagSound.isEmpty_eq {r : Reader} (h : r.FlagSound) :
    r.isEmpty = r.skipGap.remaining.isEmpty := by
  rw [isEmpty, h.remaining_skipGap]

/-- What is left over decides the verdict before the depth does. -/
lemma FlagSound.finish_of_not_isEmpty {r : Reader} (h : r.FlagSound) (hleft : r.isEmpty = false) :
    ∃ gap left, Text.GapOnly gap ∧ r.remaining = gap ++ left ∧ left ≠ [] ∧ Text.Trimmed left ∧
      r.finish = .error (.trailingInput (r.offset + Text.utf8Size gap) (left.take 32)) := by
  obtain ⟨gap, hgap, hr, -, ho, ht⟩ := h.exists_gap
  have hne : r.skipGap.remaining ≠ [] := by
    rwa [h.isEmpty_eq, List.isEmpty_eq_false_iff] at hleft
  refine ⟨gap, r.skipGap.remaining, hgap, hr, hne, ht, ?_⟩
  rw [finish_of_left hne, ho]
  rfl

lemma FlagSound.finish_of_isEmpty {r : Reader} (h : r.FlagSound) (hempty : r.isEmpty = true) :
    r.finish = if r.depth = 0 then .ok () else .error (.unbalancedNesting r.depth) := by
  rw [h.isEmpty_eq, List.isEmpty_iff] at hempty
  exact finish_of_none_left hempty

lemma FlagSound.trailingInput_iff {r : Reader} (h : r.FlagSound) :
    (∃ offset found, r.finish = .error (.trailingInput offset found)) ↔ r.isEmpty = false := by
  constructor
  · rintro ⟨offset, found, hf⟩
    rw [Bool.eq_false_iff]
    intro hempty
    rw [h.finish_of_isEmpty hempty] at hf
    split at hf <;> cases hf
  · intro hleft
    obtain ⟨gap, left, -, -, -, -, hf⟩ := h.finish_of_not_isEmpty hleft
    exact ⟨_, _, hf⟩

/-- The depth counts tokens, in every state that a run can reach: opening parentheses, be they asked for
as such or as the start of an identifier or string, less closing ones. There are no more of them than
bytes before the cursor, so a counter of 64 bits keeps the depth of any dump that a machine can hold.
The verdict at the end is that something is left over, whatever the depth, or else it is the depth. -/
theorem run_depth_verdict (dump : Text) (keys : KeyTable) (sink : Option Sink)
    (requests : List Request) :
    let reply := (ofText dump keys sink).run requests
    let r := reply.reader
    let opens := reply.tokens.count .openParen
    let closes := reply.tokens.count .closeParen
    (∀ response ∈ reply.answer, ∀ asked token, response.answer = .token asked (.ok token) →
      (asked = .openParen → token = .openParen) ∧
      (token = .openParen → asked = .openParen ∨ asked = .identifierOrString) ∧
      (token = .closeParen ↔ asked = .closeParen)) ∧
    r.depth = (opens : Int) - closes ∧
    opens + closes ≤ r.offset ∧ r.depth.natAbs ≤ r.offset ∧ r.offset ≤ Text.utf8Size dump ∧
    (Text.utf8Size dump < 2 ^ 63 →
      ∃ counted, reply.tokens.foldlM Token.count64? 0 = some counted ∧ counted.toInt = r.depth) ∧
    ((∃ offset found, r.finish = .error (.trailingInput offset found)) ↔ r.isEmpty = false) ∧
    (r.isEmpty = false → ∃ gap left, Text.GapOnly gap ∧ r.remaining = gap ++ left ∧ left ≠ [] ∧
      Text.Trimmed left ∧
      r.finish = .error (.trailingInput (r.offset + Text.utf8Size gap) (left.take 32))) ∧
    (r.isEmpty = true →
      r.finish = if r.depth = 0 then .ok () else .error (.unbalancedNesting r.depth)) := by
  intro reply r opens closes
  have start : (ofText dump keys sink).FlagSound := flagSound_ofText dump keys sink
  have flag : r.FlagSound := start.run requests
  have hsum : r.depth = (reply.tokens.map Token.depthChange).sum := by
    have hrun := depth_run (ofText dump keys sink) requests
    exact hrun.trans (Int.zero_add _)
  have hdepth : r.depth = (opens : Int) - closes := hsum.trans (Token.sum_depthChange reply.tokens)
  have htokens : reply.tokens.length ≤ r.offset := by
    have hle := length_tokens_le_offset (ofText dump keys sink) requests
    exact (Nat.le_add_left _ _).trans hle
  have hparens : opens + closes ≤ r.offset := (Token.count_parens_le reply.tokens).trans htokens
  have hoffset : r.offset ≤ Text.utf8Size dump := by
    have hd : r.dump = dump := dump_run (ofText dump keys sink) requests
    rw [← hd, Reader.dump, Text.utf8Size_append]
    exact Nat.le_add_right _ _
  refine ⟨?_, hdepth, hparens, by omega, hoffset, ?_, flag.trailingInput_iff,
    flag.finish_of_not_isEmpty, flag.finish_of_isEmpty⟩
  · intro response hm asked token ha
    exact (faithfulTo_of_run start requests response hm asked token ha).parens
  · intro hfits
    have hroom : (0 : Int64).toInt.natAbs + reply.tokens.length < 2 ^ 63 := by
      change 0 + reply.tokens.length < 2 ^ 63
      omega
    obtain ⟨counted, hfold, hcounted⟩ := Token.exists_foldlM_count64? reply.tokens 0 hroom
    refine ⟨counted, hfold, ?_⟩
    rw [hcounted, hsum]
    exact Int.zero_add _

/-- A dump with parentheses in an identifier and in strings, one that closes no group, and more to come. -/
def unbalanced : Text := "(f(x) \")\" [(] ) )\n rest".toList

def unbalancedRequests : List Request :=
  [.read .identifierOrString, .read .identifier, .read .doubleQuoted, .read .bracketed,
    .read .openParen, .read .closeParen, .read .closeParen]

theorem run_depth_verdict_unbalanced :
    let reply := (ofText unbalanced .standard none).run unbalancedRequests
    Text.utf8Size unbalanced < 2 ^ 63 ∧ reply.reader.depth = -1 ∧ reply.reader.isEmpty = false ∧
      (∃ counted, reply.tokens.foldlM Token.count64? 0 = some counted ∧ counted.toInt = -1) ∧
      ∃ gap left, Text.GapOnly gap ∧ reply.reader.remaining = gap ++ left ∧ left ≠ [] ∧
        Text.Trimmed left ∧ reply.reader.finish =
          .error (.trailingInput (reply.reader.offset + Text.utf8Size gap) (left.take 32)) := by
  intro reply
  have hfits : Text.utf8Size unbalanced < 2 ^ 63 := by decide
  have hdepth : reply.reader.depth = -1 := by rfl
  have hleft : reply.reader.isEmpty = false := by rfl
  obtain ⟨-, -, -, -, -, hcounter, -, hverdict, -⟩ :=
    run_depth_verdict unbalanced .standard none unbalancedRequests
  obtain ⟨counted, hfold, hcounted⟩ := hcounter hfits
  exact ⟨hfits, hdepth, hleft, ⟨counted, hfold, hcounted.trans hdepth⟩, hverdict hleft⟩

end Reader
end TreeDump
