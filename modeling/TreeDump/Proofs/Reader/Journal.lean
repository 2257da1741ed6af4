import TreeDump.Proofs.Reader.Conservation
import TreeDump.Proofs.Reader.Progress

/-! The journal of a run. It has the entries that are due to the requests one by one: to a read one entry of
its outcome, with what the sink adds, and to every other request none. What the entries say follows from
the answers that the requests got and from where the reader then stood. -/
namespace TreeDump

/-- The token that an entry reports as read, and the offset at which it begins. -/
def Event.consumed? : Event → Option (Token × Nat)
  | consumed token start => some (token, start)
  | _ => none

/-- Whether a sink, if there is one, passes its records on to the journal. -/
def Sink.forwards : Option Sink → Bool
  | some forwarder => true
  | _ => false

/-- The entries that are due to a request, with the response that it gets. A read gets a token of its kind,
which is entered with the offset at which it stands in the dump, then perhaps by the sink, and then with
a warning if it closes what was never opened; or it gets an error, and is entered with the kind and the
place of that. All other requests get no token, and nothing is due to them. -/
inductive Request.Logs (dump : Text) (forwards : Bool) : Request → Response → List Event → Prop
  | read {asked : Kind} {token : Token} (before after : Text) {place : Place} {depth : Int}
      (kind : token.kind = asked ∨ asked = .identifierOrString ∧ token.kind ∈ Token.alternatives)
      (stands : dump = before ++ (token.text ++ after))
      (ends : place.offset = Text.utf8Size before + Text.utf8Size token.text) :
      Logs dump forwards (.read asked) ⟨.token asked (.ok token), ⟨place, depth⟩⟩
        (.consumed token (Text.utf8Size before) ::
          ((if forwards then [.forwarded token] else []) ++
            if token = .closeParen ∧ depth < 0 then [.unopenedClose depth place.offset] else []))
  | failed {asked : Kind} {place : Place} {depth : Int} {found : Text} :
      Logs dump forwards (.read asked)
        ⟨.token asked (.error (.contractViolation asked place found)), ⟨place, depth⟩⟩
        [.missingToken asked place.offset]
  | silent {request : Request} {answer : Answer} {mark : Mark} (asks : ∀ asked, request ≠ .read asked)
      (other : ∀ asked result, answer ≠ .token asked result) :
      Logs dump forwards request ⟨answer, mark⟩ []

/-- The entries of a run, which are those of its requests, joined in their order. -/
inductive Request.LogsAll (dump : Text) (forwards : Bool) :
    List Request → List Response → List Event → Prop
  | nil : LogsAll dump forwards [] [] []
  | cons {request : Request} {response : Response} {entries : List Event} {requests : List Request}
      {responses : List Response} {events : List Event} (head : Logs dump forwards request response entries)
      (tail : LogsAll dump forwards requests responses events) :
      LogsAll dump forwards (request :: requests) (response :: responses) (entries ++ events)

lemma Sink.events_getD (token : Token) (sink : Option Sink) :
    (sink.map (events token)).getD [] = if forwards sink then [.forwarded token] else [] := by
  rcases sink with - | (seen | -) <;> rfl

lemma Sink.forwards_map_recordAll (tokens : List Token) (sink : Option Sink) :
    forwards (sink.map (recordAll tokens)) = forwards sink := by
  rcases sink with - | (seen | -) <;> rfl

namespace Reader

lemma Step.forwards_eq {r s : Reader} {token : Option Token} (h : Step r token s) :
    Sink.forwards s.sink = Sink.forwards r.sink := by
  rw [h.sink_eq, Sink.forwards_map_recordAll]

/-- The entries for a token that is read, by the mark behind it. -/
lemma acceptEvents_eq (token : Token) (rest : Text) (r : Reader) :
    r.acceptEvents token rest =
      .consumed token r.offset :: ((if Sink.forwards r.sink then [.forwarded token] else []) ++
        if token = .closeParen ∧ (r.accept token rest).depth < 0 then
          [.unopenedClose (r.accept token rest).depth (r.accept token rest).place.offset]
        else []) := by
  rw [acceptEvents, Sink.events_getD, closeEvents, offset_place]

lemma consumed_acceptEvents (token : Token) (rest : Text) (r : Reader) :
    (r.acceptEvents token rest).filterMap Event.consumed? = [(token, r.offset)] := by
  have hsink : (if Sink.forwards r.sink then [Event.forwarded token] else []).filterMap
      Event.consumed? = [] := by
    split <;> rfl
  have hclose : (closeEvents token (r.accept token rest)).filterMap Event.consumed? = [] := by
    unfold closeEvents
    split <;> rfl
  rw [acceptEvents, Sink.events_getD, List.filterMap_cons, List.filterMap_append, hsink, hclose]
  rfl

lemma offset_accept (token : Token) (rest : Text) (r : Reader) :
    (r.accept token rest).offset = r.offset + Text.utf8Size token.text :=
  Text.utf8Size_append r.consumed token.text

/-- One request leaves the entries that it is due. -/
theorem logs_meet (r : Reader) (request : Request) :
    Request.Logs r.dump (Sink.forwards r.sink) request
      ⟨(r.meet request).answer, (r.meet request).reader.mark⟩ (r.meet request).events := by
  cases request with
  | read asked =>
    cases h : Token.read? r.skipGap.keys r.skipGap.remaining asked with
    | none =>
      simp only [meet, read_of_none h, ← offset_place]
      exact .failed
    | some p =>
      obtain ⟨token, rest⟩ := p
      simp only [meet, read_of_some h, acceptEvents_eq, sink_skipGap]
      refine .read r.skipGap.consumed rest (Token.read?_kind h).2 ?_ ?_
      · rw [(Token.of_read? h).1]
        exact (dump_skipGap r).symm
      · rw [offset_place, offset_accept]
        rfl
  | _ => exact .silent (fun _ h => by cases h) (fun _ _ h => by cases h)

/-- A run leaves the entries that its requests are due, request by request. -/
theorem logs_run (r : Reader) (requests : List Request) :
    Request.LogsAll r.dump (Sink.forwards r.sink) requests (r.run requests).answer
      (r.run requests).events := by
  induction requests generalizing r with
  | nil => exact .nil
  | cons request more ih =>
    have htail := ih (r.meet request).reader
    rw [dump_meet, (step_meet r request).forwards_eq] at htail
    exact .cons (logs_meet r request) htail

/-- The tokens that a request enters, each with its start: none, or the one that it has read. -/
lemma consumed_meet (r : Reader) (request : Request) :
    (r.meet request).events.filterMap Event.consumed? =
      (r.meet request).answer.token?.toList.map fun token => (token, r.skipGap.offset) := by
  cases request with
  | read asked =>
    cases h : Token.read? r.skipGap.keys r.skipGap.remaining asked with
    | none =>
      simp only [meet, read_of_none h]
      rfl
    | some p =>
      simp only [meet, read_of_some h, consumed_acceptEvents]
      rfl
  | _ => rfl

lemma consumed_run_cons (r : Reader) (request : Request) (more : List Request) :
    (r.run (request :: more)).events.filterMap Event.consumed? =
      ((r.meet request).answer.token?.toList.map fun token => (token, r.skipGap.offset)) ++
        ((r.meet request).reader.run more).events.filterMap Event.consumed? := by
  rw [← consumed_meet, ← List.filterMap_append]
  rfl

/-- The tokens that are entered are those that are read. -/
lemma tokens_consumed_run (r : Reader) (requests : List Request) :
    ((r.run requests).events.filterMap Event.consumed?).map Prod.fst = (r.run requests).tokens := by
  induction requests generalizing r with
  | nil => rfl
  | cons request more ih =>
    rw [consumed_run_cons, tokens_run_cons, List.map_append, ih, List.map_map]
    simp [Function.comp_def]

lemma Step.offset_le {r s : Reader} {token : Option Token} (h : Step r token s) :
    r.offset ≤ s.offset := by
  obtain ⟨more, hc, -⟩ := h.exists_consumed
  simp [offset, hc]

/-- A step that reads a token ends where the token does. -/
lemma Step.offset_eq {r s : Reader} {token : Token} (h : Step r (some token) s) :
    s.offset = r.skipGap.offset + Text.utf8Size token.text ∧ token.text ≠ [] := by
  cases h with
  | take found => exact ⟨offset_accept token _ _, (Token.of_read? found).2.1⟩

/-- Every token that a run enters begins where the one before it ends, or later. -/
lemma consumed_run_ordered (r : Reader) (requests : List Request) :
    (∀ entry ∈ (r.run requests).events.filterMap Event.consumed?, r.offset ≤ entry.2) ∧
      ((r.run requests).events.filterMap Event.consumed?).Pairwise fun a b =>
        a.2 < b.2 ∧ a.2 + Text.utf8Size a.1.text ≤ b.2 := by
  induction requests generalizing r with
  | nil => exact ⟨nofun, .nil⟩
  | cons request more ih =>
    obtain ⟨hstart, hordered⟩ := ih (r.meet request).reader
    have hstep := step_meet r request
    have hskip : r.offset ≤ r.skipGap.offset := Step.skip.offset_le
    have hmeet := hstep.offset_le
    rw [consumed_run_cons]
    cases htoken : (r.meet request).answer.token? with
    | none => exact ⟨fun entry he => hmeet.trans (hstart entry he), hordered⟩
    | some token =>
      rw [htoken] at hstep
      obtain ⟨hend, hne⟩ := hstep.offset_eq
      have hsize := Text.length_le_utf8Size token.text
      have hlength := List.length_pos_iff.2 hne
      refine ⟨List.forall_mem_cons.2 ⟨hskip, fun entry he => hmeet.trans (hstart entry he)⟩, ?_⟩
      refine .cons ?_ hordered
      intro entry he
      have hle := hstart entry he
      change r.skipGap.offset < entry.2 ∧ r.skipGap.offset + Text.utf8Size token.text ≤ entry.2
      omega

/-- The journal is exact. Whatever the sink is, a run enters what its requests are due and nothing else,
in their order: to every read its token or its error, and to no other request anything. No token that is
entered, or recorded by the sink, is of a kind that stands for others; the sink has the tokens that are
entered; and they are entered in the order in which they stand in the dump, with no two of them
overlapping. -/
theorem run_journal (dump : Text) (keys : KeyTable) (sink : Option Sink) (requests : List Request) :
    let reply := (ofText dump keys sink).run requests
    let consumed := reply.events.filterMap Event.consumed?
    Request.LogsAll dump (Sink.forwards sink) requests reply.answer reply.events ∧
    (∀ entry ∈ consumed, entry.1.kind ≠ .identifierOrString) ∧
    reply.reader.sink = sink.map (Sink.recordAll (consumed.map Prod.fst)) ∧
    consumed.Pairwise fun a b => a.2 < b.2 ∧ a.2 + Text.utf8Size a.1.text ≤ b.2 := by
  intro reply consumed
  refine ⟨logs_run (ofText dump keys sink) requests, ?_, ?_, ?_⟩
  · exact fun entry _ => Token.kind_ne_identifierOrString entry.1
  · rw [tokens_consumed_run]
    exact sink_run (ofText dump keys sink) requests
  · exact (consumed_run_ordered (ofText dump keys sink) requests).2

end Reader
end TreeDump
