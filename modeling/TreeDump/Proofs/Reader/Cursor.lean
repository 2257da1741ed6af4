import TreeDump.Proofs.Reader.Step

/-! What a reader does is decided by the text at its cursor. In every state that a run can reach, this is
what remains to it behind the gap. -/
namespace TreeDump
namespace Reader

variable {r : Reader} {asked : Kind} {token : Token} {rest : Text}

lemma flagSound_run (dump : Text) (keys : KeyTable) (sink : Option Sink) (requests : List Request) :
    ((ofText dump keys sink).run requests).reader.FlagSound :=
  (flagSound_ofText dump keys sink).run requests

lemma FlagSound.canRead_eq (h : r.FlagSound) (asked : Kind) :
    (r.canRead asked).1 = asked.starts r.keys (Text.skipGap r.remaining) := by
  simp only [canRead, keys_skipGap, h.remaining_skipGap]

lemma FlagSound.read?_eq (h : r.FlagSound) (asked : Kind) :
    Token.read? r.skipGap.keys r.skipGap.remaining asked =
      Token.read? r.keys (Text.skipGap r.remaining) asked := by
  rw [keys_skipGap, h.remaining_skipGap]

/-- What stands at the cursor is read, and nothing but the gap in front of it is lost. -/
lemma FlagSound.read_of_found (h : r.FlagSound)
    (found : Token.read? r.keys (Text.skipGap r.remaining) asked = some (token, rest)) :
    (r.read asked).answer = .ok token ∧ (r.read asked).reader.remaining = rest ∧
      (r.read asked).reader.consumed = r.consumed ++ Text.gap r.remaining ++ token.text := by
  rw [read_of_some ((h.read?_eq asked).trans found), ← h.consumed_skipGap]
  exact ⟨rfl, rfl, rfl⟩

lemma FlagSound.exists_found (h : r.FlagSound) (read : (r.read asked).answer = .ok token) :
    ∃ rest, Token.read? r.keys (Text.skipGap r.remaining) asked = some (token, rest) := by
  obtain ⟨rest, found⟩ := exists_of_read_ok read
  exact ⟨rest, (h.read?_eq asked).symm.trans found⟩

lemma FlagSound.read_of_none_found (h : r.FlagSound)
    (none_found : Token.read? r.keys (Text.skipGap r.remaining) asked = none) :
    (r.read asked).answer = .error
      (.contractViolation asked (r.read asked).reader.place (r.read asked).reader.found) := by
  rw [read_of_none ((h.read?_eq asked).trans none_found)]

/-- A new reader of a text without a gap at its start looks at all of it. -/
lemma read_ofText_of_found {t : Text} (ht : Text.Trimmed t) (keys : KeyTable) (sink : Option Sink)
    (found : Token.read? keys t asked = some (token, rest)) :
    ((ofText t keys sink).read asked).answer = .ok token ∧
      ((ofText t keys sink).read asked).reader.remaining = rest := by
  have hfound : Token.read? (ofText t keys sink).keys (Text.skipGap (ofText t keys sink).remaining)
      asked = some (token, rest) := by
    rw [show Text.skipGap (ofText t keys sink).remaining = t from Text.skipGap_of_trimmed ht]
    exact found
  have h := (flagSound_ofText t keys sink).read_of_found hfound
  exact ⟨h.1, h.2.1⟩

end Reader
end TreeDump
