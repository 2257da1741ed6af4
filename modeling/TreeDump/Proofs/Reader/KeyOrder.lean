import TreeDump.Proofs.KeyTable
import TreeDump.Proofs.Reader.Step

/-! What the order of the keys means to a reader. A reader asks its table only which key stands at the start
of a text, so two tables that always agree on this give the same runs. -/
namespace TreeDump

/-- Two tables that find the same key in every text. -/
def KeyTable.Agrees (table other : KeyTable) : Prop := ∀ t, other.match? t = table.match? t

namespace KeyTable.Agrees

variable {table other : KeyTable}

lemma keyRead?_eq (h : table.Agrees other) (t : Text) : Key.read? other t = Key.read? table t := by
  unfold Key.read?
  rw [h t]

lemma starts_eq (h : table.Agrees other) (t : Text) (asked : Kind) :
    asked.starts other t = asked.starts table t := by
  cases asked with
  | key =>
    change Key.starts other t = Key.starts table t
    rw [← Key.read?_isSome, ← Key.read?_isSome, h.keyRead?_eq]
  | _ => rfl

lemma read?_eq (h : table.Agrees other) (t : Text) (asked : Kind) :
    Token.read? other t asked = Token.read? table t asked := by
  cases asked with
  | key => exact congrArg (Token.readAs? Token.key) (h.keyRead?_eq t)
  | _ => rfl

end KeyTable.Agrees

namespace Reader

/-- The reader with another table. -/
def withKeys (other : KeyTable) (r : Reader) : Reader := { r with keys := other }

end Reader

/-- The reply of a reader with another table. -/
def Reply.withKeys {α : Type} (other : KeyTable) (reply : Reply α) : Reply α :=
  ⟨reply.answer, reply.reader.withKeys other, reply.events⟩

@[simp] lemma Reply.reader_withKeys {α : Type} (other : KeyTable) (reply : Reply α) :
    (reply.withKeys other).reader = reply.reader.withKeys other := rfl

namespace Reader

variable {r : Reader} {other : KeyTable}

lemma skipGap_withKeys (other : KeyTable) (r : Reader) :
    (r.withKeys other).skipGap = r.skipGap.withKeys other := by
  by_cases h : r.trimmed = true <;> simp [skipGap, withKeys, h]

lemma finish_withKeys (other : KeyTable) (r : Reader) : (r.withKeys other).finish = r.finish := by
  unfold finish
  rw [skipGap_withKeys]
  rfl

lemma canRead_withKeys (h : r.keys.Agrees other) (asked : Kind) :
    (r.withKeys other).canRead asked = ((r.canRead asked).1, (r.canRead asked).2.withKeys other) := by
  simp only [canRead, skipGap_withKeys, keys_skipGap, ← h.starts_eq]
  rfl

lemma read_withKeys (h : r.keys.Agrees other) (asked : Kind) :
    (r.withKeys other).read asked = (r.read asked).withKeys other := by
  have hread : Token.read? (r.withKeys other).skipGap.keys (r.withKeys other).skipGap.remaining asked =
      Token.read? r.skipGap.keys r.skipGap.remaining asked := by
    rw [skipGap_withKeys, keys_skipGap r]
    exact h.read?_eq r.skipGap.remaining asked
  cases hr : Token.read? r.skipGap.keys r.skipGap.remaining asked with
  | none =>
    rw [read_of_none (hread.trans hr), read_of_none hr, skipGap_withKeys]
    rfl
  | some p =>
    rw [read_of_some (hread.trans hr), read_of_some hr, skipGap_withKeys]
    rfl

/-- A request is met alike with a table that agrees. -/
lemma meet_withKeys (h : r.keys.Agrees other) (request : Request) :
    (r.withKeys other).meet request = (r.meet request).withKeys other := by
  cases request with
  | canRead asked =>
    simp only [meet, canRead_withKeys h]
    rfl
  | read asked =>
    simp only [meet, read_withKeys h]
    rfl
  | unrecognized =>
    simp only [meet, unrecognized, skipGap_withKeys]
    rfl
  | remaining => rfl
  | isEmpty => rfl
  | look => rfl

/-- And so is every run of requests, since no request changes the table. -/
lemma run_withKeys (h : r.keys.Agrees other) (requests : List Request) :
    (r.withKeys other).run requests = (r.run requests).withKeys other := by
  induction requests generalizing r with
  | nil => rfl
  | cons request more ih =>
    have hkeys : (r.meet request).reader.keys.Agrees other := by
      rw [(step_meet r request).keys_eq]
      exact h
    simp only [run, meet_withKeys h, Reply.reader_withKeys, ih hkeys]
    rfl

end Reader

/-- Two tables that nothing can tell apart: they find the same key in every text, and every run of requests
goes the same way with both. -/
structure KeyTable.Interchangeable (table other : KeyTable) : Prop where
  found : ∀ t, other.match? t = table.match? t
  runs : ∀ (dump : Text) (sink : Option Sink) (requests : List Request),
    let first := (Reader.ofText dump table sink).run requests
    let second := (Reader.ofText dump other sink).run requests
    second.answer = first.answer ∧ second.events = first.events ∧
      second.reader.mark = first.reader.mark ∧ second.reader.sink = first.reader.sink ∧
      second.reader.finish = first.reader.finish

namespace KeyTable

variable {table other : KeyTable}

lemma Agrees.interchangeable (h : table.Agrees other) : table.Interchangeable other where
  found := h
  runs := by
    intro dump sink requests first second
    have start : (Reader.ofText dump table sink).keys.Agrees other := h
    have hrun : second = first.withKeys other := Reader.run_withKeys start requests
    rw [hrun]
    exact ⟨rfl, rfl, rfl, rfl, Reader.finish_withKeys other first.reader⟩

/-- What the order of a table can change, and what not. The keys that begin with an earlier one can be left
out, and repetitions with them. Where no key begins with another one, and so wherever the only equals sign
of each is its last character, the keys can stand in any order and any number of times. Neither can be seen,
in what is found in a text or in what any run answers, records and ends with. -/
theorem key_order_indifferent (table : KeyTable) :
    table.Interchangeable table.pruned ∧
    (table.PrefixFree → ∀ other : KeyTable, (∀ k, k ∈ other.keys ↔ k ∈ table.keys) →
      table.Interchangeable other) ∧
    (table.Plain → table.PrefixFree) := by
  refine ⟨?_, ?_, Plain.prefixFree⟩
  · have h : table.Agrees table.pruned := fun t => match?_pruned table t
    exact h.interchangeable
  · intro free other same
    have h : table.Agrees other := fun t => free.match?_eq same t
    exact h.interchangeable

/-- Two chains of keys. Of the first, all but one key is hidden, partly by keys that are hidden themselves. -/
def chains : KeyTable :=
  ⟨[⟨['x'], by decide⟩, ⟨['x', '=', 'y'], by decide⟩, ⟨"a b".toList, by decide⟩,
    ⟨['x', '=', 'y', '=', 'z'], by decide⟩, ⟨"a b".toList, by decide⟩]⟩

def spaced : KeyTable := ⟨[⟨"a b".toList, by decide⟩, ⟨"a b c".toList, by decide⟩]⟩

def spacedAnew : KeyTable :=
  ⟨[⟨"a b c".toList, by decide⟩, ⟨"a b".toList, by decide⟩, ⟨"a b c".toList, by decide⟩]⟩

theorem key_order_indifferent_chains :
    chains.pruned.texts = ["x=".toList, "a b=".toList] ∧
      ((Reader.ofText " x=y=z=1".toList chains.pruned none).run [.canRead .key, .read .key]).answer =
        ((Reader.ofText " x=y=z=1".toList chains none).run [.canRead .key, .read .key]).answer ∧
      spaced.PrefixFree ∧ (∀ k, k ∈ spacedAnew.keys ↔ k ∈ spaced.keys) ∧
      spaced.Interchangeable spacedAnew := by
  have free : spaced.PrefixFree := by decide
  have same : ∀ k, k ∈ spacedAnew.keys ↔ k ∈ spaced.keys := by
    intro k
    simp only [spaced, spacedAnew, List.mem_cons, List.not_mem_nil, or_false]
    tauto
  exact ⟨by rfl, ((key_order_indifferent chains).1.runs _ none _).1, free, same,
    (key_order_indifferent spaced).2.1 free spacedAnew same⟩

end KeyTable
end TreeDump
