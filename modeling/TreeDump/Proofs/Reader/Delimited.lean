import TreeDump.Proofs.Reader.Cursor
import TreeDump.Proofs.Token.Extent

/-! Delimited strings at the cursor. Between the opening delimiter and the first closing one behind it
anything may stand, gaps, parentheses and other delimiters too, but not nothing. -/
namespace TreeDump

/-- The kinds of delimited string, with the delimiters of each and the token that a content makes. -/
inductive Kind.Delimits : Kind → Delimiters → (Text → Token) → Prop
  | doubleQuoted : Delimits .doubleQuoted .doubleQuotes .doubleQuoted
  | singleQuoted : Delimits .singleQuoted .singleQuotes .singleQuoted
  | bracketed : Delimits .bracketed .brackets .bracketed

namespace Kind.Delimits

variable {asked : Kind} {d : Delimiters} {make : Text → Token}

lemma starts_eq (h : asked.Delimits d make) (keys : KeyTable) (t : Text) :
    asked.starts keys t = d.starts t := by
  cases h <;> rfl

lemma read?_eq (h : asked.Delimits d make) (keys : KeyTable) (t : Text) :
    Token.read? keys t asked = Token.readAs? make (d.read? t) := by
  cases h <;> rfl

lemma payload_eq (h : asked.Delimits d make) (content : Text) : (make content).payload = content := by
  cases h <;> rfl

lemma isGap_opening (h : asked.Delimits d make) : Text.isGap d.opening = false := by
  cases h <;> decide

lemma read?_of_encloses (h : asked.Delimits d make) (keys : KeyTable) {t content rest : Text}
    (hcut : d.Encloses t content rest) (hne : content ≠ []) :
    Token.read? keys t asked = some (make content, rest) := by
  rw [h.read?_eq, Delimiters.read?_eq_some_iff.2 ⟨hcut, hne⟩]
  rfl

end Kind.Delimits

namespace Reader

/-- Delimited strings are read exactly. In every state that a run can reach, one stands at the cursor if the
text there begins with the opening delimiter and at least one character stands between that and the first
closing delimiter behind it. What stands between the two comes back as it is, and what follows is left.
Where the closing delimiter follows at once, nothing is read, whatever stands further on. Any content that
is not empty and does not hold the closing delimiter is read back. -/
theorem read_delimited_exact {asked : Kind} {d : Delimiters} {make : Text → Token}
    (delimits : asked.Delimits d make) (dump : Text) (keys : KeyTable) (sink : Option Sink)
    (requests : List Request) :
    let r := ((ofText dump keys sink).run requests).reader
    let t := Text.skipGap r.remaining
    let reply := r.read asked
    ((r.canRead asked).1 = true ↔ ∃ content rest, d.Encloses t content rest ∧ content ≠ []) ∧
    (∀ content rest, d.Encloses t content rest → content ≠ [] →
      reply.answer = .ok (make content) ∧ reply.answer.map Token.payload = .ok content ∧
        reply.reader.remaining = rest) ∧
    (∀ rest, t = d.opening :: d.closing :: rest → (r.canRead asked).1 = false ∧
      reply.answer = .error (.contractViolation asked reply.reader.place reply.reader.found)) ∧
    ∀ content rest keys' sink', content ≠ [] → d.closing ∉ content →
      let fresh := (ofText (d.opening :: (content ++ d.closing :: rest)) keys' sink').read asked
      fresh.answer = .ok (make content) ∧ fresh.answer.map Token.payload = .ok content ∧
        fresh.reader.remaining = rest := by
  intro r t reply
  have flag : r.FlagSound := flagSound_run dump keys sink requests
  have hstands : (r.canRead asked).1 = d.starts t := by
    rw [flag.canRead_eq, delimits.starts_eq]
  have hpayload : ∀ content, (Except.ok (make content) : Except Error Token).map Token.payload =
      .ok content := fun content => congrArg Except.ok (delimits.payload_eq content)
  refine ⟨?_, ?_, ?_, ?_⟩
  · rw [hstands]
    exact Delimiters.starts_iff_encloses
  · intro content rest hcut hne
    obtain ⟨hanswer, hrest, -⟩ := flag.read_of_found (delimits.read?_of_encloses r.keys hcut hne)
    refine ⟨hanswer, ?_, hrest⟩
    rw [hanswer, hpayload]
  · intro rest ht
    have hempty : d.read? t = none := Delimiters.read?_of_encloses_nil ⟨ht, List.not_mem_nil⟩
    refine ⟨?_, ?_⟩
    · rw [hstands, ← Delimiters.read?_isSome, hempty]
      rfl
    · apply flag.read_of_none_found
      rw [delimits.read?_eq]
      exact congrArg (Token.readAs? make) hempty
  · intro content rest keys' sink' hne hclosing
    have htrim : Text.Trimmed (d.opening :: (content ++ d.closing :: rest)) :=
      (Text.trimmed_cons _ _).2 delimits.isGap_opening
    obtain ⟨hanswer, hrest⟩ :=
      read_ofText_of_found htrim keys' sink' (delimits.read?_of_encloses keys' ⟨rfl, hclosing⟩ hne)
    refine ⟨hanswer, ?_, hrest⟩
    rw [hanswer, hpayload]

/-- Of brackets in brackets, the first closing one ends the string, and a backslash does not help. Two quotes
side by side are no string, although a third one follows. -/
theorem read_delimited_exact_nested :
    let r := ((ofText "(\n[[a (\"\n\\]]b".toList .standard none).run [.read .openParen]).reader
    let s := ofText " ''x'".toList .standard none
    Delimiters.brackets.Encloses (Text.skipGap r.remaining) "[a (\"\n\\".toList "]b".toList ∧
      (r.canRead .bracketed).1 = true ∧
      (r.read .bracketed).answer = .ok (.bracketed "[a (\"\n\\".toList) ∧
      (r.read .bracketed).reader.remaining = "]b".toList ∧
      (s.canRead .singleQuoted).1 = false ∧
      (s.read .singleQuoted).answer = .error (.contractViolation .singleQuoted
        (s.read .singleQuoted).reader.place (s.read .singleQuoted).reader.found) ∧
      ((ofText "\"'ж\n)\"\"".toList .empty none).read .doubleQuoted).answer =
        .ok (.doubleQuoted "'ж\n)".toList) := by
  intro r s
  have cut : Delimiters.brackets.Encloses (Text.skipGap r.remaining) "[a (\"\n\\".toList "]b".toList :=
    ⟨by rfl, by decide⟩
  obtain ⟨hstands, hread, -, -⟩ := read_delimited_exact .bracketed "(\n[[a (\"\n\\]]b".toList .standard none
    [.read .openParen]
  obtain ⟨hanswer, -, hrest⟩ := hread _ _ cut (by decide)
  obtain ⟨-, -, hempty, -⟩ := read_delimited_exact .singleQuoted " ''x'".toList .standard none []
  obtain ⟨hnot, herror⟩ := hempty "x'".toList (by rfl)
  obtain ⟨-, -, -, hfresh⟩ := read_delimited_exact .doubleQuoted [] .standard none []
  exact ⟨cut, hstands.2 ⟨_, _, cut, by decide⟩, hanswer, hrest, hnot, herror,
    (hfresh "'ж\n)".toList ['"'] .empty none (by decide) (by decide)).1⟩

end Reader
end TreeDump
