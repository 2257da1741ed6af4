import TreeDump.Proofs.KeyTable
import TreeDump.Proofs.Reader.Cursor
import TreeDump.Proofs.Token.Extent

/-! Keys at the cursor. The table is asked first, and where one of its keys stands, nothing else counts. Where
none does, a key is what stands in front of the first equals sign. -/
namespace TreeDump

/-- A key is read again without the text behind it: the keys of the table that stood there still do, and no
others came to stand there. -/
lemma Key.read?_alone {table : KeyTable} {t name rest : Text} (h : read? table t = some (name, rest)) :
    read? table (text name) = some (name, []) := by
  have hstart : text name <+: t := ⟨rest, text_append_of_read? h⟩
  cases hm : table.match? t with
  | some k =>
    obtain rfl : k.name = name := by
      simp only [read?, hm, Option.some.injEq, Prod.mk.injEq] at h
      exact h.1
    have hagain := KeyTable.match?_of_isPrefix hm (List.prefix_refl _) hstart
    rw [← List.append_nil k.text] at hagain
    have hread := read?_of_match? hagain
    rwa [List.append_nil] at hread
  | none =>
    rw [read?_of_no_match hm] at h
    have hsplit := readGeneric?_eq_some_iff.1 h
    rw [read?_of_no_match (KeyTable.match?_eq_none_of_isPrefix hm hstart), readGeneric?_eq_some_iff]
    exact ⟨rfl, hsplit.first, hsplit.name_ne_nil, hsplit.plain⟩

lemma Token.read?_key_eq {table : KeyTable} {t name rest : Text}
    (h : Key.read? table t = some (name, rest)) :
    read? table t .key = some (.key name, rest) := by
  rw [read?, h]
  rfl

namespace KeyTable

variable {table : KeyTable} {t : Text}

/-- The first key of a table that stands at the start of a text, among the texts of all keys. -/
lemma exists_first_text (h : ∃ key ∈ table.texts, key <+: t) :
    ∃ earlier k later, table.texts = earlier ++ ComposedKey.text k :: later ∧
      (∀ e ∈ earlier, ¬ e <+: t) ∧ table.match? t = some k ∧ k.text <+: t := by
  cases hm : table.match? t with
  | none =>
    obtain ⟨key, hkey, hstart⟩ := h
    obtain ⟨k, hk, rfl⟩ := List.mem_map.1 hkey
    exact absurd hstart (match?_eq_none_iff.1 hm k hk)
  | some k =>
    obtain ⟨before, after, hkeys, first⟩ := exists_first_of_match? hm
    refine ⟨before.map ComposedKey.text, k, after.map ComposedKey.text, ?_, ?_, rfl,
      isPrefix_of_match? hm⟩
    · rw [texts, hkeys, List.map_append, List.map_cons]
    · intro e he
      obtain ⟨b, hb, rfl⟩ := List.mem_map.1 he
      exact first b hb

lemma match?_eq_none_iff_texts : table.match? t = none ↔ ∀ key ∈ table.texts, ¬ key <+: t := by
  rw [match?_eq_none_iff, texts, List.forall_mem_map]

end KeyTable

namespace Reader

variable {r : Reader} {token : Token} {name rest : Text}

lemma FlagSound.read_key_of_found (h : r.FlagSound)
    (found : Key.read? r.keys (Text.skipGap r.remaining) = some (name, rest)) :
    (r.read .key).answer = .ok (.key name) ∧ (r.read .key).reader.remaining = rest ∧
      (r.read .key).reader.consumed = r.consumed ++ Text.gap r.remaining ++ Key.text name :=
  h.read_of_found (Token.read?_key_eq found)

lemma FlagSound.exists_found_key (h : r.FlagSound) (read : (r.read .key).answer = .ok token) :
    ∃ name rest, token = .key name ∧
      Key.read? r.keys (Text.skipGap r.remaining) = some (name, rest) := by
  obtain ⟨rest, found⟩ := h.exists_found read
  obtain ⟨name, hread, rfl⟩ := Token.exists_of_readAs? found
  exact ⟨name, rest, rfl, hread⟩

/-- Where no key of the table stands, what does is decided by the text up to the first equals sign. -/
lemma FlagSound.read_key_iff_splits (h : r.FlagSound)
    (none_stands : r.keys.match? (Text.skipGap r.remaining) = none) :
    (∃ token, (r.read .key).answer = .ok token) ↔
      ∃ name rest, Key.Splits (Text.skipGap r.remaining) name rest := by
  constructor
  · rintro ⟨token, read⟩
    obtain ⟨name, rest, -, hread⟩ := h.exists_found_key read
    rw [Key.read?_of_no_match none_stands] at hread
    exact ⟨name, rest, Key.readGeneric?_eq_some_iff.1 hread⟩
  · rintro ⟨name, rest, hsplits⟩
    have hread := (Key.read?_of_no_match none_stands).trans (Key.readGeneric?_eq_some_iff.2 hsplits)
    exact ⟨_, (h.read_key_of_found hread).1⟩

/-- Keys are read exactly. In every state that a run can reach, the first key of the table that stands at
the cursor is read, whatever longer or shorter key would do too, and comes back without its final equals
sign. Where no key of the table stands there, one is read if the text up to the first equals sign can be a
name, and that is what comes back. A new reader with the same table, of the text of the key alone, reads
the same key and leaves nothing. -/
theorem read_key_exact (dump : Text) (table : KeyTable) (sink : Option Sink) (requests : List Request) :
    let r := ((ofText dump table sink).run requests).reader
    let t := Text.skipGap r.remaining
    let reply := r.read .key
    ((∃ key ∈ table.texts, key <+: t) → ∃ earlier key later, table.texts = earlier ++ key :: later ∧
      (∀ e ∈ earlier, ¬ e <+: t) ∧ key = key.dropLast ++ ['='] ∧
      reply.answer = .ok (.key key.dropLast) ∧ key ++ reply.reader.remaining = t) ∧
    ((∀ key ∈ table.texts, ¬ key <+: t) →
      ((∃ token, reply.answer = .ok token) ↔ ∃ name rest, Key.Splits t name rest) ∧
      ∀ name rest, Key.Splits t name rest →
        reply.answer = .ok (.key name) ∧ reply.reader.remaining = rest) ∧
    ∀ token, reply.answer = .ok token →
      token.text = token.payload ++ ['='] ∧
      reply.reader.consumed = r.consumed ++ Text.gap r.remaining ++ token.text ∧
      ∀ fresh : Option Sink,
        let again := (ofText token.text table fresh).read .key
        again.answer = .ok token ∧ again.reader.remaining = [] := by
  intro r t reply
  have flag : r.FlagSound := flagSound_run dump table sink requests
  have ht : Text.Trimmed t := Text.trimmed_skipGap r.remaining
  rw [← show r.keys = table from keys_run (ofText dump table sink) requests]
  refine ⟨?_, ?_, ?_⟩
  · intro stands
    obtain ⟨earlier, k, later, htexts, first, hmatch, rest, happ⟩ := KeyTable.exists_first_text stands
    have hread : Key.read? r.keys t = some (k.name, rest) := by
      rw [← happ] at hmatch ⊢
      exact Key.read?_of_match? hmatch
    obtain ⟨hanswer, hrest, -⟩ := flag.read_key_of_found hread
    refine ⟨earlier, k.text, later, htexts, first, ?_, ?_, ?_⟩
    · rw [← k.name_eq_dropLast]
      rfl
    · rw [← k.name_eq_dropLast]
      exact hanswer
    · rw [hrest]
      exact happ
  · intro none_stands
    have hmatch := KeyTable.match?_eq_none_iff_texts.2 none_stands
    refine ⟨flag.read_key_iff_splits hmatch, ?_⟩
    intro name rest hsplits
    have hread := (Key.read?_of_no_match hmatch).trans (Key.readGeneric?_eq_some_iff.2 hsplits)
    obtain ⟨hanswer, hrest, -⟩ := flag.read_key_of_found hread
    exact ⟨hanswer, hrest⟩
  · intro token read
    obtain ⟨name, rest, rfl, hread⟩ := flag.exists_found_key read
    refine ⟨rfl, (flag.read_key_of_found hread).2.2, ?_⟩
    intro fresh
    have htrim : Text.Trimmed (Key.text name) :=
      (Token.written_of_read? ht (Token.read?_key_eq hread)).trimmed_text
    exact read_ofText_of_found htrim r.keys fresh (Token.read?_key_eq (Key.read?_alone hread))

/-- Keys that stand at one place together. The first of them in the table is read, which is neither the
longest nor what ends at the second equals sign. -/
def overlapping : KeyTable :=
  ⟨[⟨"x=y=z".toList, by decide⟩, ⟨"x (ж\n".toList, by decide⟩, ⟨"x=y".toList, by decide⟩,
    ⟨"x".toList, by decide⟩]⟩

theorem read_key_exact_overlapping :
    let r := ((ofText "(\n x=y=(1".toList overlapping none).run [.read .openParen]).reader
    let s := ((ofText "( ж]=b=c".toList overlapping none).run [.read .openParen]).reader
    (∃ earlier key later, overlapping.texts = earlier ++ key :: later ∧
      (∀ e ∈ earlier, ¬ e <+: Text.skipGap r.remaining) ∧
      (r.read .key).answer = .ok (.key key.dropLast)) ∧
    (r.read .key).answer = .ok (.key "x=y".toList) ∧
    ((ofText "x=y=".toList overlapping none).read .key).answer = .ok (.key "x=y".toList) ∧
    (∀ key ∈ overlapping.texts, ¬ key <+: Text.skipGap s.remaining) ∧
    Key.Splits (Text.skipGap s.remaining) "ж]".toList "b=c".toList ∧
    (s.read .key).answer = .ok (.key "ж]".toList) ∧ (s.read .key).reader.remaining = "b=c".toList := by
  intro r s
  have stands : ∃ key ∈ overlapping.texts, key <+: Text.skipGap r.remaining :=
    ⟨"x=y=".toList, by decide, "(1".toList, by rfl⟩
  have read : (r.read .key).answer = .ok (.key "x=y".toList) := by rfl
  have none_stands : ∀ key ∈ overlapping.texts, ¬ key <+: Text.skipGap s.remaining := by decide
  have splits : Key.Splits (Text.skipGap s.remaining) "ж]".toList "b=c".toList :=
    ⟨by rfl, by decide, by decide, by decide⟩
  have hr := read_key_exact "(\n x=y=(1".toList overlapping none [.read .openParen]
  have hs := read_key_exact "( ж]=b=c".toList overlapping none [.read .openParen]
  obtain ⟨earlier, key, later, htexts, first, -, hanswer, -⟩ := hr.1 stands
  exact ⟨⟨earlier, key, later, htexts, first, hanswer⟩, read, ((hr.2.2 _ read).2.2 none).1, none_stands,
    splits, (hs.2.1 none_stands).2 _ _ splits⟩

end Reader
end TreeDump
