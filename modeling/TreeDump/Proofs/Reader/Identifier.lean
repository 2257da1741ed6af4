import TreeDump.Proofs.Reader.Agreement
import TreeDump.Proofs.Reader.Cursor
import TreeDump.Proofs.Token.Cutting
import TreeDump.Proofs.Token.Extent

/-! Identifiers at the cursor. One stands there if a run of name characters does, but what is read is found
by a scan with rules of its own: it goes on to the next gap, or to the parenthesis that closes a group
opened before it. -/
namespace TreeDump

namespace Identifier

/-- Outside its groups, where as many have been closed as opened, a name has no blank and no quote. -/
def PlainOutside (name : Text) : Prop :=
  ∀ part c more, name = part ++ c :: more → part.count '(' = part.count ')' →
    Text.isBlank c = false ∧ c ≠ '"' ∧ c ≠ '\''

/-- At every place up to its end, the scan holds the number of groups that are open there. -/
lemma Longest.size_append {name t part more : Text} (h : Longest 0 name t)
    (hp : part <+: name) (happ : part ++ more = t) :
    size 0 t = Text.utf8Size part + size (part.count '(' - part.count ')') more := by
  have hgapless : ∀ c ∈ part, Text.isGap c = false := fun c hc => h.gapless c (hp.subset hc)
  have hnested : Nested 0 part := fun first hfirst => h.nested first (hfirst.trans hp)
  have hdepth : depthAfter 0 part = part.count '(' - part.count ')' := by simp [depthAfter]
  rw [← happ, size_eq, split_append_of_nested hgapless hnested, Text.utf8Size_append, ← size_eq, hdepth]

/-- No group is closed where none is open. -/
lemma Longest.ne_closeParen {name t part more : Text} {c : Char} (h : Longest 0 name t)
    (hname : name = part ++ c :: more) (hcount : part.count '(' = part.count ')') : c ≠ ')' := by
  rintro rfl
  have hle := h.nested (part ++ [')']) ⟨more, by simp [hname]⟩
  have ho : ([')'] : Text).count '(' = 0 := by decide
  have hc : ([')'] : Text).count ')' = 1 := by decide
  rw [List.count_append, List.count_append, ho, hc] at hle
  omega

/-- A name that opens no group closes none. If it has no quotes either, then it is a run of name characters
unless it has a blank. -/
lemma Longest.eq_lead_iff {name t : Text} (h : Longest 0 name t) (hlead : lead t <+: name)
    (hopen : '(' ∉ name) (hquote : ∀ c ∈ name, c ≠ '"' ∧ c ≠ '\'') :
    name = lead t ↔ ∀ c ∈ name, Text.isBlank c = false := by
  constructor
  · intro hname c hc
    rw [hname] at hc
    exact ((isNameChar_iff c).1 (isNameChar_of_mem_lead hc)).1
  · intro plain
    have hchars : ∀ c ∈ name, isNameChar c = true := by
      intro c hc
      obtain ⟨part, more, hcut⟩ := List.append_of_mem hc
      have hpart : part <+: name := ⟨c :: more, hcut.symm⟩
      have hnone : part.count '(' = 0 := List.count_eq_zero.2 fun hm => hopen (hpart.subset hm)
      have hcount : part.count '(' = part.count ')' := by
        have hle := h.nested part hpart
        omega
      exact (isNameChar_iff c).2
        ⟨plain c hc, fun he => hopen (he ▸ hc), h.ne_closeParen hcut hcount, hquote c hc⟩
    obtain ⟨rest, rfl⟩ := h.start
    have hle : name.length ≤ (lead (name ++ rest)).length := by
      rw [lead, List.takeWhile_append_of_pos hchars, List.length_append]
      exact Nat.le_add_right _ _
    exact (hlead.eq_of_length_le hle).symm

end Identifier

lemma Token.read?_identifier_eq (keys : KeyTable) {t : Text} (h : Identifier.starts t = true) :
    read? keys t .identifier = some (.identifier (Identifier.split 0 t).1, (Identifier.split 0 t).2) := by
  simp only [read?, Identifier.read?, h, if_true]
  rfl

namespace Reader

lemma FlagSound.starts_of_canRead_identifier {r : Reader} (h : r.FlagSound)
    (stands : (r.canRead .identifier).1 = true) :
    Identifier.starts (Text.skipGap r.remaining) = true := by
  rw [h.canRead_eq] at stands
  exact stands

lemma FlagSound.split_of_read_identifier {r : Reader} (h : r.FlagSound) {name : Text}
    (read : (r.read .identifier).answer = .ok (.identifier name)) :
    (Identifier.split 0 (Text.skipGap r.remaining)).1 = name ∧
      Identifier.lead (Text.skipGap r.remaining) <+: name ∧
      (r.read .identifier).reader.remaining = (Identifier.split 0 (Text.skipGap r.remaining)).2 := by
  have stands : (r.canRead .identifier).1 = true :=
    (read_ok_iff_canRead r (by decide) (by decide)).1 ⟨_, read⟩
  have found := Token.read?_identifier_eq r.keys (h.starts_of_canRead_identifier stands)
  obtain ⟨hanswer, hrest, -⟩ := h.read_of_found found
  rw [read] at hanswer
  cases hanswer
  exact ⟨rfl, Identifier.lead_isPrefix _, hrest⟩

/-- Of any text, the scan of an identifier takes exactly the longest part that has no gap and closes no
group which it has not opened, and counts its bytes. On the way it holds the number of open groups, which
is never to be lowered below zero. In every state that a run can reach, the identifier
that is read extends the run of name characters that tells it is there. It is that run exactly if a gap,
a closing parenthesis or the end follows the run. Where it ends at a closing parenthesis all of its groups
are closed, and that parenthesis is read next. -/
theorem read_identifier_longest (dump : Text) (keys : KeyTable) (sink : Option Sink)
    (requests : List Request) :
    (∀ t : Text, ∃ name, Identifier.Longest 0 name t ∧ (Identifier.split 0 t).1 = name ∧
      Identifier.size 0 t = Text.utf8Size name ∧
      ∀ part more, part <+: name → part ++ more = t → part.count ')' ≤ part.count '(' ∧
        Identifier.size 0 t =
          Text.utf8Size part + Identifier.size (part.count '(' - part.count ')') more) ∧
    let r := ((ofText dump keys sink).run requests).reader
    let t := Text.skipGap r.remaining
    let reply := r.read .identifier
    (r.canRead .identifier).1 = true →
      ∃ name, reply.answer = .ok (.identifier name) ∧ Identifier.Longest 0 name t ∧
        Identifier.lead t ≠ [] ∧ Identifier.lead t <+: name ∧
        (Identifier.lead t).length ≤ name.length ∧
        (name = Identifier.lead t ↔
          ∀ c ∈ t[(Identifier.lead t).length]?, c = ' ' ∨ c = '\n' ∨ c = ')') ∧
        ∀ rest, reply.reader.remaining = ')' :: rest →
          name.count '(' = name.count ')' ∧ (reply.reader.canRead .closeParen).1 = true ∧
            (reply.reader.read .closeParen).answer = .ok .closeParen := by
  constructor
  · intro t
    have longest := Identifier.longest_split 0 t
    refine ⟨_, longest, rfl, Identifier.size_eq 0 t, fun part more hp happ => ⟨?_, ?_⟩⟩
    · have hle := longest.nested part hp
      rwa [Nat.zero_add] at hle
    · exact longest.size_append hp happ
  intro r t reply stands
  have flag : r.FlagSound := flagSound_run dump keys sink requests
  have hstarts := flag.starts_of_canRead_identifier stands
  have found := Token.read?_identifier_eq r.keys hstarts
  obtain ⟨hanswer, hrest, -⟩ := flag.read_of_found found
  have hprefix := Identifier.lead_isPrefix t
  refine ⟨_, hanswer, Identifier.longest_split 0 t, (Identifier.lead_ne_nil_iff t).2 hstarts, hprefix,
    hprefix.length_le, Identifier.split_eq_lead_iff t, ?_⟩
  intro rest hclose
  have hsplit : Identifier.read? t = some ((Identifier.split 0 t).1, ')' :: rest) := by
    rw [← hclose, hrest, Identifier.read?, if_pos hstarts]
  have hflag : reply.reader.FlagSound := flag.step (step_meet r (.read .identifier))
  have hnext : Token.read? reply.reader.keys (Text.skipGap reply.reader.remaining) .closeParen =
      some (.closeParen, rest) := by
    rw [hclose]
    rfl
  refine ⟨Identifier.count_eq_of_read? (Text.trimmed_skipGap r.remaining) hsplit, ?_,
    (hflag.read_of_found hnext).1⟩
  rw [hflag.canRead_eq, hclose]
  rfl

/-- A quote behind a group that is still open is taken in, and the parenthesis that closes the outer group
is not. -/
theorem read_identifier_longest_nested :
    let r := ((ofText "( a(b\"c)) x".toList .standard none).run [.read .openParen]).reader
    let reply := r.read .identifier
    (r.canRead .identifier).1 = true ∧ Identifier.lead (Text.skipGap r.remaining) = "a".toList ∧
      ∃ name, reply.answer = .ok (.identifier name) ∧ name = "a(b\"c)".toList ∧
        Identifier.Longest 0 name (Text.skipGap r.remaining) ∧
        name ≠ Identifier.lead (Text.skipGap r.remaining) ∧
        name.count '(' = name.count ')' ∧ (reply.reader.canRead .closeParen).1 = true := by
  intro r reply
  have stands : (r.canRead .identifier).1 = true := by rfl
  obtain ⟨name, hanswer, hlongest, -, -, -, hlead, hclose⟩ :=
    (read_identifier_longest "( a(b\"c)) x".toList .standard none [.read .openParen]).2 stands
  have hname : name = "a(b\"c)".toList := by
    have h : (Except.ok (.identifier name) : Except Error Token) =
        .ok (.identifier "a(b\"c)".toList) := hanswer.symm.trans (by rfl)
    cases h
    rfl
  have hrest : reply.reader.remaining = ')' :: " x".toList := by rfl
  obtain ⟨hcount, hnext, -⟩ := hclose _ hrest
  refine ⟨stands, by rfl, name, hanswer, hname, hlongest, ?_, hcount, hnext⟩
  intro heq
  have hends := hlead.1 heq '(' (by rfl)
  exact absurd hends (by decide)

/-- The white space that ends an identifier is the gap, and no other. An identifier begins with the run of
name characters that tells it is there. It has no gap, and outside its groups no closing parenthesis, and
of all blanks only gaps stand behind it. Quotes apart, it goes on behind the run only with a group or
with a blank that is no gap, so that one without groups and quotes is that run exactly if it has no
blank. -/
theorem read_identifier_outside_groups (dump : Text) (keys : KeyTable) (sink : Option Sink)
    (requests : List Request) (name : Text)
    (read : (((ofText dump keys sink).run requests).reader.read .identifier).answer =
      .ok (.identifier name)) :
    let r := ((ofText dump keys sink).run requests).reader
    let t := Text.skipGap r.remaining
    Identifier.lead t <+: name ∧
    (∀ c ∈ Identifier.lead t, Text.isBlank c = false ∧ c ≠ '(' ∧ c ≠ ')' ∧ c ≠ '"' ∧ c ≠ '\'') ∧
    (∀ part c more, name = part ++ c :: more →
      c ≠ ' ' ∧ c ≠ '\n' ∧ (part.count '(' = part.count ')' → c ≠ ')')) ∧
    (∀ c ∈ (r.read .identifier).reader.remaining.head?, Text.isBlank c = true → c = ' ' ∨ c = '\n') ∧
    (∀ c ∈ (name.drop (Identifier.lead t).length).head?, c ≠ '"' ∧ c ≠ '\'' →
      c = '(' ∨ (Text.isBlank c = true ∧ Text.isGap c = false)) ∧
    ('(' ∉ name → (∀ c ∈ name, c ≠ '"' ∧ c ≠ '\'') →
      (name = Identifier.lead t ↔ ∀ c ∈ name, Text.isBlank c = false)) := by
  intro r t
  have flag : r.FlagSound := flagSound_run dump keys sink requests
  obtain ⟨hname, hlead, hrest⟩ := flag.split_of_read_identifier read
  have longest : Identifier.Longest 0 name t := hname ▸ Identifier.longest_split 0 t
  refine ⟨hlead, fun c hc => (Identifier.isNameChar_iff c).1 (Identifier.isNameChar_of_mem_lead hc), ?_,
    ?_, ?_, longest.eq_lead_iff hlead⟩
  · intro part c more hcut
    have hgap : Text.isGap c = false :=
      longest.gapless c (by rw [hcut]; exact List.mem_append_right part List.mem_cons_self)
    have hne : ¬ (c = ' ' ∨ c = '\n') := fun hc => by simp [(Text.isGap_iff c).2 hc] at hgap
    exact ⟨fun hc => hne (.inl hc), fun hc => hne (.inr hc), longest.ne_closeParen hcut⟩
  · intro c hc hblank
    rw [hrest] at hc
    rcases Identifier.of_mem_head?_split hc with hgap | rfl
    · exact (Text.isGap_iff c).1 hgap
    · cases hblank
  · rw [← hname]
    exact fun c => Identifier.of_mem_head?_drop_lead

/-- A space that does not break and a tab stand in one identifier, which a new line ends. -/
theorem read_identifier_outside_groups_tab :
    let r := ((ofText "(\n a\u00a0b\tc\nd)".toList .standard none).run [.read .openParen]).reader
    (r.read .identifier).answer = .ok (.identifier "a\u00a0b\tc".toList) ∧
      Identifier.lead (Text.skipGap r.remaining) = "a".toList ∧
      "a".toList <+: "a\u00a0b\tc".toList ∧
      (∀ c ∈ (r.read .identifier).reader.remaining.head?,
        Text.isBlank c = true → c = ' ' ∨ c = '\n') ∧
      ("a\u00a0b\tc".toList = "a".toList ↔ ∀ c ∈ "a\u00a0b\tc".toList, Text.isBlank c = false) := by
  intro r
  have read : (r.read .identifier).answer = .ok (.identifier "a\u00a0b\tc".toList) := by rfl
  obtain ⟨hlead, -, -, hend, -, hplain⟩ := read_identifier_outside_groups
    "(\n a\u00a0b\tc\nd)".toList .standard none [.read .openParen] _ read
  exact ⟨read, by rfl, hlead, hend, hplain (by decide) (by decide)⟩

/-- An identifier that opens no group and is not free of blanks: a tab does not end it. It is longer than
the run of name characters. -/
theorem identifier_not_plainOutside :
    ((ofText "a\tb c".toList .standard none).read .identifier).answer =
        .ok (.identifier "a\tb".toList) ∧
      '(' ∉ "a\tb".toList ∧ Identifier.lead "a\tb c".toList = "a".toList ∧
      Text.isBlank '\t' = true ∧ ¬ Identifier.PlainOutside "a\tb".toList := by
  refine ⟨by rfl, by decide, by rfl, by decide, ?_⟩
  intro plain
  have h := plain ['a'] '\t' ['b'] rfl rfl
  exact absurd h.1 (by decide)

end Reader
end TreeDump
