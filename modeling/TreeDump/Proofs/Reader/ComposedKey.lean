import TreeDump.Proofs.KeyTable
import TreeDump.Proofs.Reader.Step

/-! Composed keys at the cursor. A key of the table is read whole where no earlier key of the table
stands, unless it begins with a gap, which is skipped before any key is looked for. -/
namespace TreeDump

namespace KeyTable

/-- A table has the keys of the list that it was made of, place by place. -/
lemma exists_keys_of_ofTexts {earlier later : List Text} {key : Text} {table : KeyTable}
    (h : ofTexts (earlier ++ key :: later) = .ok table) :
    ∃ before k after, table.keys = before ++ k :: after ∧
      before.map ComposedKey.text = earlier ∧ k.text = key := by
  have ht := texts_of_ofTexts h
  obtain ⟨before, others, hkeys, hbefore, hothers⟩ := List.map_eq_append_iff.1 ht
  obtain ⟨k, after, rfl, hk, -⟩ := List.map_eq_cons_iff.1 hothers
  exact ⟨before, k, after, hkeys, hbefore, hk⟩

end KeyTable

namespace Reader

/-- Asking for a kind, reading it, and looking at what remains. -/
lemma run_of_read? {r : Reader} {asked : Kind} {token : Token} {rest : Text}
    (hstarts : asked.starts r.skipGap.keys r.skipGap.remaining = true)
    (hread : Token.read? r.skipGap.keys r.skipGap.remaining asked = some (token, rest)) :
    (r.run [.canRead asked, .read asked, .remaining]).answer.map Response.answer =
      [.truth true, .token asked (.ok token), .text rest] := by
  have hagain : r.skipGap.read asked = r.read asked := by simp only [read, skipGap_skipGap]
  simp only [run, meet, canRead, hstarts, hagain, read_of_some hread, List.map_cons, List.map_nil]
  rfl

/-- A composed key that a table has accepted is read where it stands, whole and without its equals sign,
if no earlier key of the table stands there. The key must not begin with a gap. -/
theorem read_composedKey (earlier later : List Text) (key rest : Text) (table : KeyTable)
    (sink : Option Sink) (accepted : KeyTable.ofTexts (earlier ++ key :: later) = .ok table)
    (trimmed : Text.Trimmed key) (first : ∀ e ∈ earlier, ¬ e <+: key ++ rest) :
    key = key.dropLast ++ ['='] ∧
    ((ofText (key ++ rest) table sink).run [.canRead .key, .read .key, .remaining]).answer.map
        Response.answer =
      [.truth true, .token .key (.ok (.key key.dropLast)), .text rest] := by
  obtain ⟨before, k, after, hkeys, rfl, rfl⟩ := KeyTable.exists_keys_of_ofTexts accepted
  rw [← k.name_eq_dropLast]
  have hmatch : table.match? (k.text ++ rest) = some k := by
    apply KeyTable.match?_of_first hkeys (List.prefix_append _ _)
    intro e he
    exact first e.text (List.mem_map_of_mem he)
  have hcursor : (ofText (k.text ++ rest) table sink).skipGap.remaining = k.text ++ rest := by
    rw [(flagSound_ofText _ table sink).remaining_skipGap]
    exact Text.skipGap_of_trimmed ((Text.trimmed_append_iff k.text_ne_nil rest).2 trimmed)
  have hread := Key.read?_of_match? hmatch
  refine ⟨rfl, run_of_read? ?_ ?_⟩
  · rw [hcursor, keys_skipGap]
    change Key.starts table (k.text ++ rest) = true
    rw [← Key.read?_isSome, hread]
    rfl
  · rw [hcursor, keys_skipGap]
    change Token.readAs? Token.key (Key.read? table (k.text ++ rest)) = _
    rw [hread]
    rfl

/-- A longer key in front of it does not get in the way of a key, as long as the longer one does not
stand there. -/
theorem read_composedKey_behind_longer :
    ∃ table, KeyTable.ofTexts ["x=y=z=".toList, "x (ж\n=".toList, "x=y=".toList] = .ok table ∧
      ((ofText "x=y=w".toList table none).run [.canRead .key, .read .key, .remaining]).answer.map
          Response.answer =
        [.truth true, .token .key (.ok (.key "x=y".toList)), .text "w".toList] :=
  ⟨⟨[⟨"x=y=z".toList, by decide⟩, ⟨"x (ж\n".toList, by decide⟩, ⟨"x=y".toList, by decide⟩]⟩, by rfl,
    (read_composedKey ["x=y=z=".toList, "x (ж\n=".toList] [] "x=y=".toList "w".toList _ none
      (by rfl) (by decide) (by decide)).2⟩

/-- That no earlier key is the start of a key is not enough to have it read. A key that begins with a gap
is accepted and never found, and where an earlier key goes on into what follows, that one is read. -/
theorem composedKey_not_read :
    (∃ table, KeyTable.ofTexts [" a b=".toList] = .ok table ∧
      ((ofText " a b=x".toList table none).run [.canRead .key, .read .key, .remaining]).answer.map
          Response.answer =
        [.truth false,
          .token .key (.error (.contractViolation .key ⟨1, 1, 2⟩ "a b=x".toList)),
          .text "a b=x".toList]) ∧
    ∃ table, KeyTable.ofTexts ["x=y=".toList, "x=".toList] = .ok table ∧
      ¬ "x=y=".toList <+: "x=".toList ∧
      ((ofText ("x=".toList ++ "y=1".toList) table none).run
          [.canRead .key, .read .key, .remaining]).answer.map Response.answer =
        [.truth true, .token .key (.ok (.key "x=y".toList)), .text "1".toList] :=
  ⟨⟨⟨[⟨" a b".toList, by decide⟩]⟩, by rfl, by rfl⟩,
    ⟨⟨[⟨"x=y".toList, by decide⟩, ⟨"x".toList, by decide⟩]⟩, by rfl, by decide, by rfl⟩⟩

end Reader
end TreeDump
