import TreeDump.Proofs.Reader.Cursor
import TreeDump.Proofs.Token.Extent

/-! Locations at the cursor. The text decides where the file part ends and which digits are the line, and
only the column could be cut short. So there is nothing to choose but the longest column, and nothing to
try further on. -/
namespace TreeDump

lemma Location.starts_iff {t : Text} (ht : Text.Trimmed t) :
    starts t = true ↔ ∃ l : Location, l.Formed ∧ l.text <+: t := by
  rw [← read?_isSome, Option.isSome_iff_exists]
  constructor
  · rintro ⟨⟨l, rest⟩, h⟩
    have hends := (read?_eq_some_iff ht).1 h
    exact ⟨l, hends.formed, rest, hends.text_append⟩
  · rintro ⟨l, hf, hp⟩
    obtain ⟨digits, rest, hends⟩ := exists_ends ht hf hp
    exact ⟨_, (read?_eq_some_iff ht).2 hends⟩

lemma Token.read?_location_eq (keys : KeyTable) {t rest : Text} {l : Location} (ht : Text.Trimmed t)
    (h : Location.Ends t l rest) : read? keys t .location = some (.location l, rest) := by
  rw [read?, (Location.read?_eq_some_iff ht).2 h]
  rfl

namespace Reader

/-- Locations are read exactly, and at one possible place. In every state that a run can reach, a location
stands at the cursor if some `file:line:column` begins the text there. All that do have the same file,
which ends in front of the first colon, and the same line. The one that is read has the longest column of
them, comes back as it is written, and leaves a text that does not go on with a digit. Nothing is read
where the first delimiter of a file part is not followed up by digits, a colon and a digit, whatever stands
further on. -/
theorem read_location_exact (dump : Text) (keys : KeyTable) (sink : Option Sink)
    (requests : List Request) :
    let r := ((ofText dump keys sink).run requests).reader
    let t := Text.skipGap r.remaining
    let reply := r.read .location
    ((r.canRead .location).1 = true ↔ ∃ l : Location, l.Formed ∧ l.text <+: t) ∧
    (∀ l : Location, l.Formed → l.text <+: t → l.file = t.takeWhile (· != ':')) ∧
    ((r.canRead .location).1 = true → ∃ found : Location,
      reply.answer = .ok (.location found) ∧ reply.answer.map Token.payload = .ok found.text ∧
        found.Formed ∧ found.text ++ reply.reader.remaining = t ∧
        (∀ c ∈ reply.reader.remaining.head?, c.isDigit = false) ∧
        ∀ l : Location, l.Formed → l.text <+: t →
          l.file = found.file ∧ l.line = found.line ∧ l.column <+: found.column) ∧
    ∀ before after, t = before ++ after → (∀ c ∈ before, c ≠ ':' ∧ c ≠ '(' ∧ c ≠ ')') →
      (∀ c ∈ after.head?, c = ':' ∨ c = '(' ∨ c = ')') →
      (¬ ∃ line d more, after = ':' :: (line ++ ':' :: d :: more) ∧ line ≠ [] ∧
        (∀ c ∈ line, c.isDigit = true) ∧ d.isDigit = true) →
      reply.answer =
        .error (.contractViolation .location reply.reader.place reply.reader.found) := by
  intro r t reply
  have flag : r.FlagSound := flagSound_run dump keys sink requests
  have ht : Text.Trimmed t := Text.trimmed_skipGap r.remaining
  have hstands : (r.canRead .location).1 = true ↔ ∃ l : Location, l.Formed ∧ l.text <+: t := by
    rw [flag.canRead_eq]
    exact Location.starts_iff ht
  refine ⟨hstands, fun l => Location.Formed.file_eq, ?_, ?_⟩
  · intro stands
    obtain ⟨l, hf, hp⟩ := hstands.1 stands
    obtain ⟨digits, rest, hends⟩ := Location.exists_ends ht hf hp
    obtain ⟨hanswer, hrest, -⟩ := flag.read_of_found (Token.read?_location_eq r.keys ht hends)
    refine ⟨l.extend digits, hanswer, ?_, hends.formed, ?_, ?_, fun other => hends.of_start ht⟩
    · rw [hanswer]
      rfl
    · rw [hrest]
      exact hends.text_append
    · rw [hrest]
      exact hends.no_digit
  · intro before after hcut hb ha hno
    apply flag.read_of_none_found
    have hnone : Location.read? t = none := by
      rw [Option.eq_none_iff_forall_not_mem]
      rintro ⟨l, rest⟩ hread
      have hends := (Location.read?_eq_some_iff ht).1 hread
      rw [hcut] at hends
      exact hno (hends.exists_digits hb ha)
    change Token.readAs? _ (Location.read? t) = none
    rw [hnone]
    rfl

/-- Of the two locations that begin a chain of numbers, behind a file with a quote and a gap, the longer one
is read. In another chain a location stands behind the first colon, and none is read. -/
theorem read_location_exact_chain :
    let r := ((ofText "(\n\"a\n b:1:23:4".toList .standard none).run [.read .openParen]).reader
    let s := ofText "a:x:1:2".toList .standard none
    let short : Location := ⟨"\"a\n b".toList, "1".toList, "2".toList⟩
    (r.canRead .location).1 = true ∧ short.Formed ∧ short.text <+: Text.skipGap r.remaining ∧
      (∃ found, (r.read .location).answer = .ok (.location found) ∧
        found.text ++ ":4".toList = Text.skipGap r.remaining ∧
        short.file = found.file ∧ short.line = found.line ∧ short.column <+: found.column) ∧
      Location.starts "x:1:2".toList = true ∧
      (s.read .location).answer = .error
        (.contractViolation .location (s.read .location).reader.place (s.read .location).reader.found) := by
  intro r s short
  have stands : (r.canRead .location).1 = true := by rfl
  have formed : short.Formed := ⟨by decide, by decide, by decide, by decide, by decide⟩
  have hstart : short.text <+: Text.skipGap r.remaining := ⟨"3:4".toList, by rfl⟩
  obtain ⟨found, hanswer, -, -, happ, -, hall⟩ :=
    (read_location_exact "(\n\"a\n b:1:23:4".toList .standard none [.read .openParen]).2.2.1 stands
  refine ⟨stands, formed, hstart, ⟨found, hanswer, happ, hall short formed hstart⟩, by rfl, ?_⟩
  refine (read_location_exact "a:x:1:2".toList .standard none []).2.2.2 "a".toList ":x:1:2".toList
    (by rfl) (by decide) (by decide) ?_
  rintro ⟨line, d, more, hcut, hne, hline, -⟩
  obtain ⟨c, digits, rfl⟩ := List.exists_cons_of_ne_nil hne
  obtain rfl : 'x' = c := (List.cons.inj (List.cons.inj hcut).2).1
  exact absurd (hline 'x' List.mem_cons_self) (by decide)

end Reader
end TreeDump
