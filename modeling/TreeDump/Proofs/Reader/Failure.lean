import TreeDump.Proofs.Reader.Step

/-! Reads that fail. Whatever stopped a read, all that it changes is that the gap at the cursor is
skipped, and its error tells where the reader then stands. -/
namespace TreeDump
namespace Reader

/-- The cursor stops in front of the first character that is not of the gap. -/
lemma FlagSound.exists_gap {r : Reader} (h : r.FlagSound) :
    ∃ gap, Text.GapOnly gap ∧ r.remaining = gap ++ r.skipGap.remaining ∧
      r.skipGap.consumed = r.consumed ++ gap ∧
      r.skipGap.offset = r.offset + Text.utf8Size gap ∧ Text.Trimmed r.skipGap.remaining := by
  refine ⟨Text.gap r.remaining, Text.gapOnly_gap r.remaining, ?_, h.consumed_skipGap, ?_,
    h.trimmed_remaining⟩
  · rw [h.remaining_skipGap, Text.gap_append_skipGap]
  · rw [offset, h.consumed_skipGap, Text.utf8Size_append]
    rfl

/-- A failed read is atomic. In every state that a run can reach it skips the gap at the cursor and
does nothing else: depth, keys and sink stay, and the journal gets the failure alone. The error quotes
the place and the next characters there, as the error for an unrecognized token does. Asking again
gives the same error and changes nothing. -/
theorem failed_read_atomic (dump : Text) (keys : KeyTable) (sink : Option Sink)
    (requests : List Request) (asked : Kind) (e : Error)
    (failed : (((ofText dump keys sink).run requests).reader.read asked).answer = .error e) :
    let r := ((ofText dump keys sink).run requests).reader
    let s := (r.read asked).reader
    (∃ gap, Text.GapOnly gap ∧ r.remaining = gap ++ s.remaining ∧ s.consumed = r.consumed ++ gap ∧
      s.offset = r.offset + Text.utf8Size gap ∧ Text.Trimmed s.remaining) ∧
    s.depth = r.depth ∧ s.keys = r.keys ∧ s.sink = r.sink ∧
    (r.read asked).events = [.missingToken asked s.offset] ∧
    e = .contractViolation asked s.place (s.remaining.take 32) ∧ s.place.offset = s.offset ∧
    r.unrecognized = (.noRecognizedToken s.place (s.remaining.take 32), s) ∧
    s.read asked = ⟨.error e, s, [.missingToken asked s.offset]⟩ := by
  intro r s
  have flag : r.FlagSound := (flagSound_ofText dump keys sink).run requests
  have hnone := read?_eq_none_of_error failed
  have hread := read_of_none hnone
  have hs : s = r.skipGap := congrArg Reply.reader hread
  have hagain : Token.read? r.skipGap.skipGap.keys r.skipGap.skipGap.remaining asked = none := by
    rw [skipGap_skipGap]
    exact hnone
  have he : e = .contractViolation asked s.place (s.remaining.take 32) := by
    rw [hs]
    exact error_of_read failed
  rw [he, hs]
  refine ⟨flag.exists_gap, depth_skipGap r, keys_skipGap r, sink_skipGap r, ?_, rfl,
    offset_place r.skipGap, rfl, ?_⟩
  · rw [hread]
  · rw [read_of_none hagain, skipGap_skipGap]
    rfl

/-- A declaration whose name is there and whose location is missing, behind a group and a gap. -/
theorem failed_read_atomic_declaration :
    let r := ((ofText "( \n T@nowhere".toList .standard (some (.recorder []))).run
      [.read .openParen]).reader
    let s := (r.read .declaration).reader
    (r.canRead .declaration).1 = true ∧
      (r.read .declaration).answer =
        .error (.contractViolation .declaration ⟨4, 2, 2⟩ "T@nowhere".toList) ∧
      s.remaining = "T@nowhere".toList ∧ s.depth = 1 ∧ s.sink = some (.recorder [.openParen]) ∧
      s.read .declaration = ⟨.error (.contractViolation .declaration ⟨4, 2, 2⟩ "T@nowhere".toList),
        s, [.missingToken .declaration s.offset]⟩ := by
  have failed : (((ofText "( \n T@nowhere".toList .standard (some (.recorder []))).run
      [.read .openParen]).reader.read .declaration).answer =
      .error (.contractViolation .declaration ⟨4, 2, 2⟩ "T@nowhere".toList) := by rfl
  have h := failed_read_atomic _ _ _ _ _ _ failed
  exact ⟨by rfl, failed, by rfl, h.2.1.trans (by rfl), h.2.2.2.1.trans (by rfl), h.2.2.2.2.2.2.2.2⟩

end Reader
end TreeDump
