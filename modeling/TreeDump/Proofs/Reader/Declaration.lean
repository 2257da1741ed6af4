import TreeDump.Proofs.Reader.Cursor
import TreeDump.Proofs.Token.Extent

/-! Declarations at the cursor. The text decides at which sign the name ends, and what is read is a form
that is read again as it is, without the gap behind the sign. -/
namespace TreeDump

lemma Token.read?_declaration_eq (keys : KeyTable) {t tail gap rest : Text} {c : Char} {place : Location}
    (h : Declaration.Cuts t c tail gap place rest) :
    read? keys t .declaration = some (.declaration ⟨c :: tail, gap, place⟩, rest) := by
  have hread : Declaration.read? t = some (⟨c :: tail, gap, place⟩, rest) :=
    Declaration.read?_eq_some_iff.2 ⟨c, tail, rfl, h⟩
  rw [read?, hread]
  rfl

namespace Reader

lemma FlagSound.read_declaration_ok_iff_cuts {r : Reader} (h : r.FlagSound) :
    (∃ token, (r.read .declaration).answer = .ok token) ↔
      ∃ c tail gap place rest, Declaration.Cuts (Text.skipGap r.remaining) c tail gap place rest := by
  constructor
  · rintro ⟨token, read⟩
    obtain ⟨rest, found⟩ := h.exists_found read
    obtain ⟨d, hread, rfl⟩ := Token.exists_of_readAs? found
    obtain ⟨c, tail, -, hcuts⟩ := Declaration.read?_eq_some_iff.1 hread
    exact ⟨c, tail, d.gap, d.place, rest, hcuts⟩
  · rintro ⟨c, tail, gap, place, rest, hcuts⟩
    exact ⟨_, (h.read_of_found (Token.read?_declaration_eq r.keys hcuts)).1⟩

/-- A new reader of a declaration that was cut out of a text, with any gap behind the sign, reads the same
form of it and stops in front of what is written behind it. -/
lemma read_declaration_again {t tail gap rest : Text} {c : Char} {place : Location}
    (h : Declaration.Cuts t c tail gap place rest) (hc : Text.isGap c = false) {other more : Text}
    (hg : Text.GapOnly other) (hd : ∀ e ∈ more.head?, e.isDigit = false) (keys : KeyTable)
    (sink : Option Sink) :
    let reply := (ofText (c :: (tail ++ '@' :: (other ++ place.text)) ++ more) keys sink).read .declaration
    reply.answer.map Token.payload = .ok (c :: (tail ++ '@' :: place.text)) ∧
      reply.reader.remaining = more := by
  intro reply
  have ht : Text.Trimmed (c :: (tail ++ '@' :: (other ++ place.text)) ++ more) :=
    (Text.trimmed_cons c _).2 hc
  obtain ⟨hanswer, hrest⟩ :=
    read_ofText_of_found ht keys sink (Token.read?_declaration_eq keys (h.again hg hd))
  refine ⟨?_, hrest⟩
  rw [hanswer]
  rfl

/-- Declarations are split at the right sign and come back in a canonical form. In every state that a run
can reach, one stands at the cursor if the text there can be split behind a name and its sign, which it can
in one way only. It is read if a gap and a location follow the sign. What comes back has no gap behind the
sign, and all of the gap is consumed. A new reader of what came back, or of what was consumed, reads the
same again and leaves just what is written behind it, unless that goes on with a digit. -/
theorem read_declaration_canonical (dump : Text) (keys : KeyTable) (sink : Option Sink)
    (requests : List Request) :
    let r := ((ofText dump keys sink).run requests).reader
    let t := Text.skipGap r.remaining
    let reply := r.read .declaration
    ((r.canRead .declaration).1 = true ↔ ∃ c tail rest, Declaration.Splits t c tail rest) ∧
    (∀ c tail rest c' tail' rest', Declaration.Splits t c tail rest →
      Declaration.Splits t c' tail' rest' → c = c' ∧ tail = tail' ∧ rest = rest') ∧
    ((∃ token, reply.answer = .ok token) ↔
      ∃ c tail gap place rest, Declaration.Cuts t c tail gap place rest) ∧
    ∀ c tail gap place rest, Declaration.Cuts t c tail gap place rest →
      reply.answer.map Token.payload = .ok (c :: (tail ++ '@' :: place.text)) ∧
      reply.reader.remaining = rest ∧
      reply.reader.consumed =
        r.consumed ++ Text.gap r.remaining ++ c :: (tail ++ '@' :: (gap ++ place.text)) ∧
      ∀ written ∈ [c :: (tail ++ '@' :: place.text), c :: (tail ++ '@' :: (gap ++ place.text))],
        ∀ more keys' sink', (∀ e ∈ more.head?, e.isDigit = false) →
          let again := (ofText (written ++ more) keys' sink').read .declaration
          again.answer.map Token.payload = .ok (c :: (tail ++ '@' :: place.text)) ∧
            again.reader.remaining = more := by
  intro r t reply
  have flag : r.FlagSound := flagSound_run dump keys sink requests
  have ht : Text.Trimmed t := Text.trimmed_skipGap r.remaining
  refine ⟨?_, fun _ _ _ _ _ _ h h' => h.eq h', flag.read_declaration_ok_iff_cuts, ?_⟩
  · rw [flag.canRead_eq]
    exact Declaration.starts_iff_splits t
  · intro c tail gap place rest hcuts
    obtain ⟨hanswer, hrest, hconsumed⟩ := flag.read_of_found (Token.read?_declaration_eq r.keys hcuts)
    have hc : Text.isGap c = false := by
      rw [hcuts.name.text_eq] at ht
      exact (Text.trimmed_cons c _).1 ht
    refine ⟨?_, hrest, hconsumed, ?_⟩
    · rw [hanswer]
      rfl
    · intro written hw more keys' sink' hd
      rcases List.mem_cons.1 hw with rfl | hw
      · exact read_declaration_again hcuts hc Text.gapOnly_nil hd keys' sink'
      · obtain rfl := List.mem_singleton.1 hw
        exact read_declaration_again hcuts hc hcuts.gap hd keys' sink'

/-- The name is an at sign, and the file part has one too, with a space behind it. -/
theorem read_declaration_canonical_signs :
    let r := ((ofText "(@@ \n f@ 1:2:3:4)".toList .standard none).run [.read .openParen]).reader
    let place : Location := ⟨"f@ 1".toList, ['2'], ['3']⟩
    Declaration.Cuts (Text.skipGap r.remaining) '@' [] " \n ".toList place ":4)".toList ∧
      (r.canRead .declaration).1 = true ∧
      (r.read .declaration).answer.map Token.payload = .ok "@@f@ 1:2:3".toList ∧
      (r.read .declaration).reader.remaining = ":4)".toList ∧
      let again := (ofText "@@f@ 1:2:3:4)".toList .empty none).read .declaration
      again.answer.map Token.payload = .ok "@@f@ 1:2:3".toList ∧
        again.reader.remaining = ":4)".toList := by
  intro r place
  have formed : place.Formed := ⟨by decide, by decide, by decide, by decide, by decide⟩
  have cuts : Declaration.Cuts (Text.skipGap r.remaining) '@' [] " \n ".toList place ":4)".toList :=
    ⟨⟨by rfl, by decide, by simp⟩, by decide, by decide, ⟨formed, rfl, by decide⟩⟩
  obtain ⟨hstands, -, -, hall⟩ :=
    read_declaration_canonical "(@@ \n f@ 1:2:3:4)".toList .standard none [.read .openParen]
  obtain ⟨hanswer, hrest, -, hagain⟩ := hall _ _ _ _ _ cuts
  exact ⟨cuts, hstands.2 ⟨_, _, _, cuts.name⟩, hanswer, hrest,
    hagain _ List.mem_cons_self ":4)".toList .empty none (by decide)⟩

end Reader
end TreeDump
