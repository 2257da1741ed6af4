import TreeDump.Proofs.Reader.Cursor
import TreeDump.Proofs.Token.Reading

/-! What a token owes to the text behind it. Parentheses, strings and keys hold their own end. The other
tokens end in front of a character that cannot be theirs, and nothing behind that character counts. -/
namespace TreeDump

/-- Whether the tokens of a kind hold their own end. -/
def Kind.holdsEnd : Kind → Bool
  | openParen | closeParen | doubleQuoted | singleQuoted | bracketed | key => true
  | identifier | identifierOrString | location | declaration => false

namespace Token

variable {token : Token} {rest others : Text}

lemma EndsBefore.of_head? (h : token.EndsBefore rest) (same : others.head? = rest.head?) :
    token.EndsBefore others := by
  cases token with
  | identifier name | location place | declaration declared =>
    unfold EndsBefore at h ⊢
    rw [same]
    exact h
  | _ => trivial

lemma endsBefore_of_holdsEnd (h : token.kind.holdsEnd = true) (rest : Text) : token.EndsBefore rest := by
  cases token with
  | identifier name | location place | declaration declared => cases h
  | _ => trivial

end Token

namespace Reader

/-- At most one character behind a token decides where it ends. Whatever a run has read by its own kind, a
new reader with the same table reads it again, and leaves just what is written behind it, if that begins
with the same character as what was left then, or is empty as that was. Parentheses, strings and keys are
read again in front of any text. -/
theorem read_right_context (dump : Text) (keys : KeyTable) (plain : keys.Plain) (sink : Option Sink)
    (requests : List Request) (asked : Kind) (single : asked ≠ .identifierOrString) (token : Token)
    (read : (((ofText dump keys sink).run requests).reader.read asked).answer = .ok token) :
    let r := ((ofText dump keys sink).run requests).reader
    let left := (r.read asked).reader.remaining
    token.text ++ left = Text.skipGap r.remaining ∧
    ∀ others fresh, others.head? = left.head? ∨ asked.holdsEnd = true →
      let again := (ofText (token.text ++ others) keys fresh).read asked
      again.answer = .ok token ∧ again.answer.map Token.payload = .ok token.payload ∧
        again.reader.remaining = others := by
  intro r left
  have flag : r.FlagSound := flagSound_run dump keys sink requests
  have ht : Text.Trimmed (Text.skipGap r.remaining) := Text.trimmed_skipGap r.remaining
  have hkeys : r.keys = keys := keys_run (ofText dump keys sink) requests
  obtain ⟨rest, found⟩ := flag.exists_found read
  have hleft : left = rest := (flag.read_of_found found).2.1
  rw [hkeys] at found
  obtain ⟨happ, -, hkind⟩ := Token.of_read? found
  have hwritten := Token.written_of_read? ht found
  refine ⟨(congrArg (token.text ++ ·) hleft).trans happ, ?_⟩
  intro others fresh context
  have ends : token.EndsBefore others := by
    rcases context with same | holds
    · rw [hleft] at same
      exact (Token.endsBefore_of_read? plain ht found).of_head? same
    · rw [← hkind single] at holds
      exact Token.endsBefore_of_holdsEnd holds others
  have hread := Token.read?_text_append_of_endsBefore plain hwritten ends
  rw [hkind single] at hread
  have htrim : Text.Trimmed (token.text ++ others) :=
    (Text.trimmed_append_iff hwritten.text_ne_nil others).2 hwritten.trimmed_text
  obtain ⟨hanswer, hrest⟩ := read_ofText_of_found htrim keys fresh hread
  refine ⟨hanswer, ?_, hrest⟩
  rw [hanswer]
  rfl

/-- An identifier with a group and a quote, in front of the parenthesis that closes the group around it. What
stands behind that parenthesis does not count, not even a bracket for the one with which the name begins. -/
theorem read_right_context_bracket :
    let r := ((ofText "(\n [a(b)' ) c".toList .standard none).run [.read .openParen]).reader
    let again := (ofText "[a(b)' ]\"".toList .standard none).read .identifier
    KeyTable.standard.Plain ∧
      (r.read .identifier).answer = .ok (.identifier "[a(b)'".toList) ∧
      " ]\"".toList.head? = (r.read .identifier).reader.remaining.head? ∧
      again.answer = .ok (.identifier "[a(b)'".toList) ∧ again.reader.remaining = " ]\"".toList := by
  intro r again
  have plain : KeyTable.standard.Plain := by decide
  have read : (r.read .identifier).answer = .ok (.identifier "[a(b)'".toList) := by rfl
  have same : " ]\"".toList.head? = (r.read .identifier).reader.remaining.head? := by rfl
  have h := (read_right_context "(\n [a(b)' ) c".toList .standard plain none [.read .openParen] .identifier
    (by decide) _ read).2 " ]\"".toList none (.inl same)
  exact ⟨plain, read, same, h.1, h.2.2⟩

end Reader
end TreeDump
