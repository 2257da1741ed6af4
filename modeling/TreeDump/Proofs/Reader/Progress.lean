import TreeDump.Proofs.Reader.Agreement
import TreeDump.Proofs.Reader.Conservation
import TreeDump.Reader.Request

/-! Reading makes progress. Every token takes at least one character of the dump, so a loop that reads
on ends, and it is stuck only in front of a quote or of a blank that is no gap. -/
namespace TreeDump

namespace Kind

/-- Behind a gap neither a parenthesis nor an identifier stands exactly where a quote or a blank does,
or nothing at all. -/
lemma none_starts_iff (keys : KeyTable) {t : Text} (ht : Text.Trimmed t) :
    (∀ asked ∈ [openParen, closeParen, identifier], asked.starts keys t = false) ↔
      ∀ c ∈ t.head?, c = '"' ∨ c = '\'' ∨ (Text.isBlank c = true ∧ Text.isGap c = false) := by
  simp only [List.forall_mem_cons, List.not_mem_nil, false_imp_iff, implies_true, and_true]
  cases t with
  | nil => simp [starts, Text.startsWith, Identifier.starts]
  | cons c r =>
    have hg : Text.isGap c = false := (Text.trimmed_cons c r).1 ht
    simp only [starts, Text.startsWith, Identifier.starts, isNameChar, List.head?_cons,
      Option.mem_some_iff, forall_eq', hg, and_true]
    by_cases ho : c = '('
    · subst ho
      decide
    · by_cases hc : c = ')'
      · subst hc
        decide
      · cases Text.isBlank c with
        | true => simp [ho, hc]
        | false => simp [ho, hc, or_iff_not_imp_left]

end Kind

namespace Reader

/-- A step that reads a token consumes a character at least. -/
lemma Step.exists_consumed {r s : Reader} {token : Option Token} (h : Step r token s) :
    ∃ more, s.consumed = r.consumed ++ more ∧ token.toList.length ≤ more.length := by
  obtain ⟨gap, -, hc⟩ := h.consumed_eq
  refine ⟨gap ++ token.toList.flatMap Token.text, by rw [hc, List.append_assoc], ?_⟩
  cases h with
  | stay => simp
  | skip => simp
  | take found =>
    have hp := List.length_pos_iff.2 (Token.of_read? found).2.1
    simp only [Option.toList_some, List.length_singleton, List.flatMap_singleton,
      List.length_append]
    omega

/-- What a run consumes has a character for each token that it reads, at least. -/
theorem exists_consumed_run (r : Reader) (requests : List Request) :
    ∃ more, (r.run requests).reader.consumed = r.consumed ++ more ∧
      (r.run requests).tokens.length ≤ more.length := by
  induction requests generalizing r with
  | nil => exact ⟨[], (List.append_nil _).symm, Nat.le_refl _⟩
  | cons request more ih =>
    obtain ⟨first, hfirst, hone⟩ := (step_meet r request).exists_consumed
    obtain ⟨others, hothers, hmany⟩ := ih (r.meet request).reader
    refine ⟨first ++ others, ?_, ?_⟩
    · change ((r.meet request).reader.run more).reader.consumed = _
      rw [hothers, hfirst, List.append_assoc]
    · rw [tokens_run_cons, List.length_append, List.length_append]
      omega

lemma length_tokens_le_offset (r : Reader) (requests : List Request) :
    r.offset + (r.run requests).tokens.length ≤ (r.run requests).reader.offset := by
  obtain ⟨more, hc, hlen⟩ := exists_consumed_run r requests
  have hbytes := Text.length_le_utf8Size more
  simp only [offset, hc, Text.utf8Size_append]
  omega

lemma length_tokens_le_remaining (r : Reader) (requests : List Request) :
    (r.run requests).tokens.length + (r.run requests).reader.remaining.length ≤
      r.remaining.length := by
  obtain ⟨more, hc, hlen⟩ := exists_consumed_run r requests
  have hdump := congrArg List.length (dump_run r requests)
  simp only [dump, hc, List.length_append] at hdump
  omega

lemma offset_read_lt {r : Reader} {asked : Kind} {token : Token}
    (h : (r.read asked).answer = .ok token) : r.offset < (r.read asked).reader.offset := by
  have hone : (r.run [.read asked]).tokens = [token] := by
    rw [tokens_run_cons]
    simp [meet, h, Answer.token?, Reply.tokens]
  have hle := length_tokens_le_offset r [.read asked]
  rw [hone] at hle
  exact hle

/-- One turn of a loop that reads a token in each turn, whatever else it asks for. -/
def ReadsOn (s r : Reader) : Prop :=
  ∃ requests, (r.run requests).tokens ≠ [] ∧ s = (r.run requests).reader

/-- No such loop goes on for ever. -/
theorem readsOn_wellFounded : WellFounded ReadsOn := by
  apply Subrelation.wf _ (InvImage.wf (fun r : Reader => r.remaining.length) Nat.lt_wfRel.wf)
  rintro s r ⟨requests, hne, rfl⟩
  have hp := List.length_pos_iff.2 hne
  have hle := length_tokens_le_remaining r requests
  change (r.run requests).reader.remaining.length < r.remaining.length
  omega

/-- Neither a parenthesis nor an identifier stands at the cursor. -/
def Stuck (r : Reader) : Prop :=
  ∀ asked ∈ [Kind.openParen, .closeParen, .identifier], (r.canRead asked).1 = false

lemma FlagSound.stuck_iff {r : Reader} (h : r.FlagSound) :
    r.Stuck ↔ ∀ c ∈ (Text.skipGap r.remaining).head?,
      c = '"' ∨ c = '\'' ∨ (Text.isBlank c = true ∧ Text.isGap c = false) := by
  rw [← h.remaining_skipGap]
  exact Kind.none_starts_iff r.skipGap.keys h.trimmed_remaining

/-- A drain makes requests like any other caller, and finds what they find. -/
theorem exists_run_drainFrom (kinds pending : List Kind) (r : Reader) :
    ∃ requests, (r.run requests).reader = (r.drainFrom kinds pending).reader ∧
      (r.run requests).events = (r.drainFrom kinds pending).events := by
  fun_induction drainFrom kinds pending r with
  | case1 r => exact ⟨[], rfl, rfl⟩
  | case2 r asked more s hstands reply pass others ih =>
    obtain ⟨requests, hreader, hevents⟩ := ih
    refine ⟨.canRead asked :: .read asked :: requests, hreader, ?_⟩
    change [] ++ (reply.events ++ (reply.reader.run requests).events) = _
    rw [hevents, List.nil_append]
  | case3 r asked more s hstands ih =>
    obtain ⟨requests, hreader, hevents⟩ := ih
    exact ⟨.canRead asked :: requests, hreader, hevents⟩

/-- A kind that stands at the cursor and can be read there. -/
def Offers (r : Reader) (asked : Kind) : Prop :=
  (r.canRead asked).1 = true ∧ ∃ token, (r.read asked).answer = .ok token

@[simp] lemma offers_skipGap (r : Reader) (asked : Kind) :
    r.skipGap.Offers asked ↔ r.Offers asked := by
  simp only [Offers, canRead, read, skipGap_skipGap]

lemma reader_read_of_error {r : Reader} {asked : Kind} {e : Error}
    (h : (r.read asked).answer = .error e) : (r.read asked).reader = r.skipGap :=
  congrArg Reply.reader (read_of_none (read?_eq_none_of_error h))

/-- A drain ends where none of its kinds is left to go on with. -/
theorem not_offers_drainFrom (kinds pending : List Kind) (r : Reader)
    (passed : ∀ kind ∈ kinds, kind ∉ pending → ¬ r.Offers kind) :
    ∀ kind ∈ kinds, ¬ (r.drainFrom kinds pending).reader.Offers kind := by
  fun_induction drainFrom kinds pending r with
  | case1 r => exact fun kind hk => passed kind hk List.not_mem_nil
  | case2 r asked more s hstands reply pass others ih =>
    apply ih
    intro kind hk hpass
    cases ha : reply.answer with
    | ok token =>
      simp only [pass, ha] at hpass
      exact absurd hk hpass
    | error e =>
      simp only [pass, ha] at hpass
      -- The read has failed, so the kind passed over now is not offered either.
      have hs : reply.reader = r.skipGap := (reader_read_of_error ha).trans (skipGap_skipGap r)
      rw [hs, offers_skipGap]
      by_cases he : kind = asked
      · subst he
        rw [← offers_skipGap]
        rintro ⟨-, token, hok⟩
        cases ha.symm.trans hok
      · exact passed kind hk (by simp [he, hpass])
  | case3 r asked more s hstands ih =>
    apply ih
    intro kind hk hmore
    change ¬ r.skipGap.Offers kind
    rw [offers_skipGap]
    by_cases he : kind = asked
    · subst he
      exact fun ho => hstands ho.1
    · exact passed kind hk (by simp [he, hmore])

/-- A drain that takes parentheses and identifiers, and whatever else, ends where it is stuck. -/
lemma stuck_drain {kinds : List Kind} (hkinds : [.openParen, .closeParen, .identifier] ⊆ kinds)
    (r : Reader) : (r.drain kinds).reader.Stuck := by
  have hend := not_offers_drainFrom kinds kinds r fun kind hk hn => absurd hk hn
  intro asked hasked
  have hs : asked ≠ .identifierOrString := by
    rintro rfl
    exact absurd hasked (by decide)
  have hd : asked ≠ .declaration := by
    rintro rfl
    exact absurd hasked (by decide)
  rw [Bool.eq_false_iff]
  intro hstands
  exact hend asked (hkinds hasked) ⟨hstands, (read_ok_iff_canRead _ hs hd).2 hstands⟩

/-- Reading makes progress, in every state that a run can reach. Each token read moves the cursor on,
so no run reads more tokens than the dump has characters, and no loop that reads a token in each turn
goes on for ever. A reader is stuck, with no parenthesis and no identifier at its cursor, exactly at
the end of the dump and in front of a quote or of a blank that is no gap, and a drain that takes these
three kinds gets it there. -/
theorem run_progress (dump : Text) (keys : KeyTable) (sink : Option Sink) (requests : List Request) :
    let reply := (ofText dump keys sink).run requests
    let r := reply.reader
    (∀ asked token, (r.read asked).answer = .ok token →
      r.offset < (r.read asked).reader.offset) ∧
    reply.tokens.length ≤ dump.length ∧
    Acc ReadsOn r ∧
    (r.Stuck ↔ ∀ c ∈ (Text.skipGap r.remaining).head?,
      c = '"' ∨ c = '\'' ∨ (Text.isBlank c = true ∧ Text.isGap c = false)) ∧
    ∀ kinds, [.openParen, .closeParen, .identifier] ⊆ kinds →
      (r.drain kinds).reader.Stuck ∧ ∃ more, (r.run more).reader = (r.drain kinds).reader := by
  intro reply r
  have flag : r.FlagSound := (flagSound_ofText dump keys sink).run requests
  refine ⟨fun asked token h => offset_read_lt h, ?_, readsOn_wellFounded.apply r, flag.stuck_iff, ?_⟩
  · have hle := length_tokens_le_remaining (ofText dump keys sink) requests
    exact (Nat.le_add_right _ _).trans hle
  · intro kinds hkinds
    obtain ⟨more, hreader, -⟩ := exists_run_drainFrom kinds kinds r
    exact ⟨stuck_drain hkinds r, more, hreader⟩

/-- In front of a string, where a drain that reads no strings has to leave off. -/
theorem run_progress_before_string :
    let r := ((ofText "f (a \"b\"".toList .standard none).run [.read .identifier]).reader
    let kinds := [Kind.identifier, .closeParen, .openParen]
    (r.read .openParen).answer = .ok .openParen ∧ r.offset < (r.read .openParen).reader.offset ∧
      [.openParen, .closeParen, .identifier] ⊆ kinds ∧ (r.drain kinds).reader.Stuck := by
  intro r kinds
  have hread : (r.read .openParen).answer = .ok .openParen := by rfl
  have hkinds : [.openParen, .closeParen, .identifier] ⊆ kinds := by decide
  obtain ⟨hmoves, -, -, -, hdrain⟩ :=
    run_progress "f (a \"b\"".toList .standard none [.read .identifier]
  exact ⟨hread, hmoves .openParen .openParen hread, hkinds, (hdrain kinds hkinds).1⟩

end Reader
end TreeDump
