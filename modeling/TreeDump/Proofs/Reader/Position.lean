import TreeDump.Proofs.Place
import TreeDump.Proofs.Reader.Progress

/-! Where a reader stands, by line and column. This tells what remains of the line at the cursor, and it
tells any two states of readers of one dump apart that differ in their offset. -/
namespace TreeDump
namespace Reader

lemma consumed_isPrefix (dump : Text) (keys : KeyTable) (sink : Option Sink)
    (requests : List Request) :
    ((ofText dump keys sink).run requests).reader.consumed <+: dump :=
  ⟨_, dump_run (ofText dump keys sink) requests⟩

/-- The line of a dump that a reader stands on: it has the number of the reader's place, and behind as
many characters as the column counts it goes on with what remains in front of a newline. -/
structure OnLine (dump : Text) (r : Reader) (line : Text) : Prop where
  one_le_line : 1 ≤ r.place.line
  one_le_column : 1 ≤ r.place.column
  getElem?_lines : (dump.splitOn '\n')[r.place.line - 1]? = some line
  column_le : r.place.column - 1 ≤ line.length
  drop_eq : line.drop (r.place.column - 1) = r.remaining.takeWhile (· != '\n')

lemma exists_onLine (r : Reader) : ∃ line, r.OnLine r.dump line := by
  obtain ⟨last, hline, hcolumn⟩ := Text.exists_line r.consumed r.remaining
  have hnumber : r.place.line - 1 = r.consumed.count '\n' := by
    rw [place, Place.line_after]
    exact Nat.add_sub_cancel_left 1 _
  have hbefore : r.place.column - 1 = last.length := by
    rw [place, hcolumn]
    exact Nat.add_sub_cancel _ 1
  refine ⟨last ++ Text.firstLine r.remaining, ?_, ?_, ?_, ?_, ?_⟩
  · rw [place, Place.line_after]
    exact Nat.le_add_right 1 _
  · rw [place, hcolumn]
    exact Nat.le_add_left 1 _
  · rw [hnumber]
    exact hline
  · rw [hbefore, List.length_append]
    exact Nat.le_add_right _ _
  · rw [hbefore]
    exact List.drop_left

/-- Nothing that is asked of a reader takes it back. -/
lemma position_le_run (r : Reader) (requests : List Request) :
    r.place.position ≤ (r.run requests).reader.place.position := by
  obtain ⟨more, hconsumed, -⟩ := exists_consumed_run r requests
  rw [place, place, hconsumed, Place.after_append]
  exact Place.position_le_after _ more

lemma position_read_lt {r : Reader} {asked : Kind} {token : Token}
    (h : (r.read asked).answer = .ok token) :
    r.place.position < (r.read asked).reader.place.position := by
  obtain ⟨more, hconsumed, -⟩ := exists_consumed_run r [.read asked]
  change (r.read asked).reader.consumed = _ at hconsumed
  have hmore : more ≠ [] := by
    rintro rfl
    have hlt := offset_read_lt h
    simp [offset, hconsumed] at hlt
  rw [place, place, hconsumed, Place.after_append]
  exact Place.position_lt_after _ hmore

/-- Line and column identify the cursor. In every state that a run can reach, the line with that number
exists and goes on at that column with what remains of it. Of any two states of readers of one dump,
whatever their keys, sinks and requests are, the one that is further in the dump has the greater position,
so that equal positions mean equal offsets. A successful read takes the position forward, and no request
takes it back. -/
theorem run_position (dump : Text) (keys keys' : KeyTable) (sink sink' : Option Sink)
    (requests requests' : List Request) :
    let r := ((ofText dump keys sink).run requests).reader
    let s := ((ofText dump keys' sink').run requests').reader
    (∃ line, r.OnLine dump line) ∧
    (r.place.position = s.place.position ↔ r.offset = s.offset) ∧
    (r.place.position < s.place.position ↔ r.offset < s.offset) ∧
    (∀ asked token, (r.read asked).answer = .ok token →
      r.place.position < (r.read asked).reader.place.position) ∧
    ∀ request, r.place.position ≤ (r.meet request).reader.place.position := by
  intro r s
  have hr : r.consumed <+: dump := consumed_isPrefix dump keys sink requests
  have hs : s.consumed <+: dump := consumed_isPrefix dump keys' sink' requests'
  have hdump : r.dump = dump := dump_run (ofText dump keys sink) requests
  refine ⟨hdump ▸ exists_onLine r, ?_, ?_, fun asked token => position_read_lt,
    fun request => position_le_run r [request]⟩
  · rw [← offset_place, ← offset_place]
    exact Place.position_eq_iff hr hs Place.start
  · rw [← offset_place, ← offset_place]
    exact Place.position_lt_iff hr hs Place.start

/-- A newline inside a string begins a line, and the string ends behind a character of four bytes. -/
theorem run_position_in_string :
    let r := ((ofText "(\"é\n𝒯\"x\r\n".toList .standard none).run
      [.read .openParen, .read .doubleQuoted]).reader
    (r.read .identifier).answer = .ok (.identifier "x\r".toList) ∧
      r.place = ⟨10, 2, 3⟩ ∧ (r.read .identifier).reader.place = ⟨12, 2, 5⟩ ∧
      r.OnLine "(\"é\n𝒯\"x\r\n".toList "𝒯\"x\r".toList ∧
      r.place.position < (r.read .identifier).reader.place.position := by
  have hread : ((((ofText "(\"é\n𝒯\"x\r\n".toList .standard none).run
      [.read .openParen, .read .doubleQuoted]).reader.read .identifier).answer =
      .ok (.identifier "x\r".toList)) := by rfl
  obtain ⟨⟨line, hline⟩, -, -, hforward, -⟩ := run_position "(\"é\n𝒯\"x\r\n".toList .standard
    .standard none none [.read .openParen, .read .doubleQuoted] []
  have hsecond : line = "𝒯\"x\r".toList := Option.some.inj (hline.getElem?_lines.symm.trans (by decide))
  exact ⟨hread, by rfl, by rfl, hsecond ▸ hline, hforward _ _ hread⟩

end Reader
end TreeDump
