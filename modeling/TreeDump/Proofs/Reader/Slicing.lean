import TreeDump.Proofs.Reader.Agreement
import TreeDump.Proofs.Reader.Journal
import TreeDump.Proofs.Reader.Progress
import TreeDump.Proofs.Token.Cutting

/-! A reader that keeps the whole dump and the offset of its cursor, and cuts out by offsets whatever
it looks at. No cut ever fails: it does all that the reader of two texts does. -/
namespace TreeDump

/-- A reader by offset. Whatever slices the dump has no result if the slice is not there. -/
structure SlicingReader where
  dump : Text
  /-- Bytes of the dump before the cursor. -/
  offset : Nat
  /-- Groups opened less groups closed. -/
  depth : Int
  /-- Whether the gap at the cursor has been skipped. -/
  trimmed : Bool
  /-- The composed keys, as they are written. -/
  keys : List Text
  /-- What has been read, the oldest first: a kind, the text and the offset at which it begins. -/
  seen : List (Kind × Text × Nat)
  deriving DecidableEq, Repr

/-- An answer to a request, where a token is told by its payload alone. -/
inductive SlicedAnswer where
  | truth (holds : Bool)
  | payload (asked : Kind) (result : Except Error Text)
  | error (e : Error)
  | text (t : Text)
  | done

def Kind.depthChange : Kind → Int
  | openParen => 1
  | closeParen => -1
  | _ => 0

namespace SlicingReader

def ofText (dump : Text) (keys : List Text) : SlicingReader := ⟨dump, 0, 0, false, keys, []⟩

def remaining? (r : SlicingReader) : Option Text := Text.from? r.dump r.offset

def found? (r : SlicingReader) : Option Text := do
  let t ← r.remaining?
  return Text.preview t

/-- The place of the cursor. Its column is counted from the last newline before it. -/
def place? (r : SlicingReader) : Option Place := do
  let before ← Text.upTo? r.dump r.offset
  let last ← Text.from? before (Text.lineStart before)
  return ⟨r.offset, before.count '\n' + 1, last.length + 1⟩

def mark? (r : SlicingReader) : Option Mark := do
  let place ← r.place?
  return ⟨place, r.depth⟩

def skipGap? (r : SlicingReader) : Option SlicingReader :=
  if r.trimmed then some r
  else do
    let t ← r.remaining?
    let size ← Text.gapSize? t
    return { r with offset := r.offset + size, trimmed := true }

def violation? (asked : Kind) (r : SlicingReader) : Option Error := do
  let place ← r.place?
  let found ← r.found?
  return .contractViolation asked place found

/-- Goes on behind a token of some size, and tells its text. -/
def advance? (kind : Kind) (size : Nat) (r : SlicingReader) : Option SlicingReader := do
  let text ← Text.slice? r.dump r.offset (r.offset + size)
  return { r with
    offset := r.offset + size
    depth := r.depth + kind.depthChange
    trimmed := false
    seen := r.seen ++ [(kind, text, r.offset)] }

/-- Reads a token of the kind that is asked for, and of no other. -/
def readKind? (asked : Kind) (r : SlicingReader) :
    Option (Except Error Text × SlicingReader) := do
  let s ← r.skipGap?
  let t ← s.remaining?
  match ← asked.cut? s.keys t with
  | some cutting =>
    let last ← s.advance? asked cutting.size
    return (.ok cutting.payload, last)
  | none =>
    let e ← s.violation? asked
    return (.error e, s)

/-- Reads a token. What stands for several kinds is read as the first of them that stands there. -/
def read? (asked : Kind) (r : SlicingReader) : Option (Except Error Text × SlicingReader) :=
  if asked = .identifierOrString then do
    let s ← r.skipGap?
    let t ← s.remaining?
    match Token.alternatives.find? fun kind => kind.stands s.keys t with
    | some kind => s.readKind? kind
    | none =>
      let e ← s.violation? asked
      return (.error e, s)
  else r.readKind? asked

def meet? (r : SlicingReader) : Request → Option (SlicedAnswer × SlicingReader)
  | .canRead asked => do
    let s ← r.skipGap?
    let t ← s.remaining?
    return (.truth (asked.stands s.keys t), s)
  | .read asked => do
    let (result, s) ← r.read? asked
    return (.payload asked result, s)
  | .unrecognized => do
    let s ← r.skipGap?
    let place ← s.place?
    let found ← s.found?
    return (.error (.noRecognizedToken place found), s)
  | .remaining => do
    let t ← r.remaining?
    return (.text t, r)
  | .isEmpty => do
    let t ← r.remaining?
    return (.truth (Text.skipGap t).isEmpty, r)
  | .look => some (.done, r)

def run? (r : SlicingReader) : List Request → Option (List (SlicedAnswer × Mark) × SlicingReader)
  | [] => some ([], r)
  | request :: more => do
    let (answer, s) ← r.meet? request
    let mark ← s.mark?
    let (others, last) ← s.run? more
    return ((answer, mark) :: others, last)

def finish? (r : SlicingReader) : Option (Except Error Unit) := do
  let s ← r.skipGap?
  let t ← s.remaining?
  if t ≠ [] then
    let found ← s.found?
    return .error (.trailingInput s.offset found)
  else if s.depth ≠ 0 then return .error (.unbalancedNesting s.depth)
  else return .ok ()

end SlicingReader

def Answer.sliced : Answer → SlicedAnswer
  | truth holds => .truth holds
  | token asked result => .payload asked (result.map Token.payload)
  | error e => .error e
  | text t => .text t
  | done => .done

def Response.sliced (response : Response) : SlicedAnswer × Mark :=
  (response.answer.sliced, response.mark)

/-- The tokens that a journal enters as read, each with its kind, its text and its start. -/
def Event.seen (events : List Event) : List (Kind × Text × Nat) :=
  (events.filterMap consumed?).map fun entry => (entry.1.kind, entry.1.text, entry.2)

namespace Event

lemma seen_nil : seen [] = [] := rfl

lemma seen_missingToken (asked : Kind) (offset : Nat) : seen [.missingToken asked offset] = [] := rfl

lemma seen_append (first others : List Event) :
    seen (first ++ others) = seen first ++ seen others := by simp [seen]

end Event

namespace Token

lemma depthChange_kind (token : Token) : token.kind.depthChange = token.depthChange := by
  cases token <;> rfl

lemma find?_alternatives_eq_none {keys : KeyTable} {t : Text}
    (h : read? keys t .identifierOrString = none) :
    alternatives.find? (fun kind => kind.starts keys t) = none := by
  rw [read?_identifierOrString, List.findSome?_eq_none_iff] at h
  rw [List.find?_eq_none]
  intro kind hk
  rw [← read?_isSome_of_mem hk, h kind hk]
  exact Bool.false_ne_true

end Token

namespace Reader

/-- The reader by offset for a reader, after what has been read so far. -/
def sliced (seen : List (Kind × Text × Nat)) (r : Reader) : SlicingReader :=
  ⟨r.dump, r.offset, r.depth, r.trimmed, r.keys.texts, seen⟩

variable (seen : List (Kind × Text × Nat)) (r : Reader)

lemma remaining?_sliced : (r.sliced seen).remaining? = some r.remaining :=
  Text.from?_of_append rfl

lemma found?_sliced : (r.sliced seen).found? = some r.found := by
  simp [SlicingReader.found?, remaining?_sliced, found]

/-- The cursor lies behind the consumed text, and its column behind the last newline of that. -/
lemma place?_sliced : (r.sliced seen).place? = some r.place := by
  have hbefore : Text.upTo? (r.sliced seen).dump (r.sliced seen).offset = some r.consumed :=
    Text.upTo?_of_append rfl
  obtain ⟨last, hlast, hcolumn⟩ := Place.from?_lineStart r.consumed
  have hline : r.place.line = r.consumed.count '\n' + 1 :=
    (Place.line_after Place.start r.consumed).trans (Nat.add_comm 1 _)
  simp only [SlicingReader.place?, hbefore, hlast, Option.bind_eq_bind, Option.bind_some]
  change some (Place.mk r.offset _ _) = _
  rw [← offset_place, ← hline, ← hcolumn]
  rfl

lemma mark?_sliced : (r.sliced seen).mark? = some r.mark := by
  rw [SlicingReader.mark?, place?_sliced]
  rfl

lemma violation?_sliced (asked : Kind) :
    (r.sliced seen).violation? asked = some (.contractViolation asked r.place r.found) := by
  simp [SlicingReader.violation?, place?_sliced, found?_sliced]

lemma skipGap?_sliced : (r.sliced seen).skipGap? = some (r.skipGap.sliced seen) := by
  by_cases h : r.trimmed = true
  · simp [SlicingReader.skipGap?, sliced, skipGap, h]
  · have hdump := dump_skipGap r
    have hoffset : r.skipGap.offset = r.offset + Text.utf8Size (Text.gap r.remaining) := by
      simp [offset, skipGap, h]
    simp only [SlicingReader.skipGap?, remaining?_sliced, Text.gapSize?_eq]
    simp [sliced, h, hdump, hoffset]

lemma advance?_sliced {token : Token} {rest : Text} (h : token.text ++ rest = r.remaining) :
    (r.sliced seen).advance? token.kind (Text.utf8Size token.text) =
      some ((r.accept token rest).sliced (seen ++ [(token.kind, token.text, r.offset)])) := by
  have hslice : Text.slice? r.dump r.offset (r.offset + Text.utf8Size token.text) =
      some token.text :=
    Text.slice?_of_append (by rw [h]; rfl)
  have hdump : (r.accept token rest).dump = r.dump := by
    simp [dump, accept, ← h]
  simp only [SlicingReader.advance?, sliced, hslice, hdump, offset_accept, Token.depthChange_kind]
  rfl

lemma seen_acceptEvents (token : Token) (rest : Text) :
    Event.seen (r.acceptEvents token rest) = [(token.kind, token.text, r.offset)] := by
  rw [Event.seen, consumed_acceptEvents]
  rfl

lemma readKind?_sliced {asked : Kind} (hs : asked ≠ .identifierOrString) :
    (r.sliced seen).readKind? asked =
      some ((r.read asked).answer.map Token.payload,
        (r.read asked).reader.sliced (seen ++ Event.seen (r.read asked).events)) := by
  have hcut : asked.cut? (r.skipGap.sliced seen).keys r.skipGap.remaining = _ :=
    Kind.cut?_eq r.skipGap.keys r.skipGap.remaining hs
  simp only [SlicingReader.readKind?, skipGap?_sliced, remaining?_sliced, hcut, Option.bind_eq_bind,
    Option.bind_some]
  cases h : Token.read? r.skipGap.keys r.skipGap.remaining asked with
  | none =>
    simp only [Option.map_none, violation?_sliced, Option.bind_some, read_of_none h,
      Event.seen_missingToken, List.append_nil]
    rfl
  | some p =>
    obtain ⟨token, rest⟩ := p
    obtain ⟨happend, -, hkind⟩ := Token.of_read? h
    have hadvance := advance?_sliced seen r.skipGap happend
    rw [hkind hs] at hadvance
    simp only [Option.map_some, Token.cutting, hadvance, Option.bind_some, read_of_some h,
      seen_acceptEvents, hkind hs]
    rfl

/-- By offset and by text, the same is read. -/
lemma read?_sliced (asked : Kind) :
    (r.sliced seen).read? asked =
      some ((r.read asked).answer.map Token.payload,
        (r.read asked).reader.sliced (seen ++ Event.seen (r.read asked).events)) := by
  by_cases hs : asked = .identifierOrString
  · subst hs
    have hstands : (fun kind : Kind => kind.stands (r.skipGap.sliced seen).keys r.skipGap.remaining) =
        fun kind => kind.starts r.skipGap.keys r.skipGap.remaining :=
      funext fun kind => Kind.stands_texts r.skipGap.keys r.skipGap.remaining kind
    simp only [SlicingReader.read?, if_true, skipGap?_sliced, remaining?_sliced, Option.bind_eq_bind,
      Option.bind_some, hstands]
    cases h : Token.read? r.skipGap.keys r.skipGap.remaining .identifierOrString with
    | none =>
      simp only [Token.find?_alternatives_eq_none h, violation?_sliced, Option.bind_some,
        read_of_none h, Event.seen_missingToken, List.append_nil]
      rfl
    | some p =>
      obtain ⟨kind, hfirst, hsome, he⟩ := Token.exists_find?_of_isSome (by rw [h]; rfl)
      have hne : kind ≠ .identifierOrString := by
        rintro rfl
        exact absurd (List.mem_of_find?_eq_some hfirst) (by decide)
      have hread : r.skipGap.read kind = r.read .identifierOrString := by
        rw [read_congr hsome he]
        simp only [read, skipGap_skipGap]
      simp only [hfirst, readKind?_sliced seen r.skipGap hne, hread]
  · rw [SlicingReader.read?, if_neg hs]
    exact readKind?_sliced seen r hs

lemma meet?_sliced (request : Request) :
    (r.sliced seen).meet? request =
      some ((r.meet request).answer.sliced,
        (r.meet request).reader.sliced (seen ++ Event.seen (r.meet request).events)) := by
  cases request with
  | canRead asked =>
    have hstands := Kind.stands_texts r.skipGap.keys r.skipGap.remaining asked
    simp only [SlicingReader.meet?, skipGap?_sliced, remaining?_sliced, Option.bind_eq_bind,
      Option.bind_some, meet, Event.seen_nil, List.append_nil]
    exact congrArg (fun holds => some (SlicedAnswer.truth holds, r.skipGap.sliced seen)) hstands
  | read asked =>
    simp only [SlicingReader.meet?, read?_sliced, Option.bind_eq_bind, Option.bind_some]
    rfl
  | unrecognized =>
    simp only [SlicingReader.meet?, skipGap?_sliced, place?_sliced, found?_sliced,
      Option.bind_eq_bind, Option.bind_some, meet, Event.seen_nil, List.append_nil]
    rfl
  | remaining | isEmpty =>
    simp only [SlicingReader.meet?, remaining?_sliced, Option.bind_eq_bind, Option.bind_some, meet,
      Event.seen_nil, List.append_nil]
    rfl
  | look =>
    simp only [SlicingReader.meet?, meet, Event.seen_nil, List.append_nil]
    rfl

/-- A run by offset is a run by text. -/
lemma run?_sliced (requests : List Request) :
    (r.sliced seen).run? requests =
      some ((r.run requests).answer.map Response.sliced,
        (r.run requests).reader.sliced (seen ++ Event.seen (r.run requests).events)) := by
  induction requests generalizing r seen with
  | nil =>
    simp only [SlicingReader.run?, run_nil, Event.seen_nil, List.append_nil]
    rfl
  | cons request more ih =>
    simp only [SlicingReader.run?, meet?_sliced, mark?_sliced, ih, Option.bind_eq_bind,
      Option.bind_some, run, Event.seen_append, List.append_assoc]
    rfl

lemma finish?_sliced : (r.sliced seen).finish? = some r.finish := by
  simp only [SlicingReader.finish?, skipGap?_sliced, remaining?_sliced, found?_sliced,
    Option.bind_eq_bind, Option.bind_some, finish]
  split
  · rfl
  · exact (apply_ite some _ _ _).symm

lemma offset_le_dump : r.offset ≤ Text.utf8Size r.dump := by
  rw [dump, Text.utf8Size_append]
  exact Nat.le_add_right _ _

lemma offset_le_run (requests : List Request) : r.offset ≤ (r.run requests).reader.offset := by
  obtain ⟨more, hconsumed, -⟩ := exists_consumed_run r requests
  simp [offset, hconsumed]

/-- No slice fails. A reader by offset whose table was accepted gets through every run: each slice that
it takes begins before it ends, and does both between two characters. Its answers are those of a reader
by text, it reports the same texts as read, and ends a dump in the same way. Its cursor is the size of
what has been consumed of the dump, with the rest of the dump behind it, and never goes back. -/
theorem run_slices {keys : List Text} {table : KeyTable}
    (accepted : KeyTable.ofTexts keys = .ok table) (dump : Text) (sink : Option Sink)
    (requests : List Request) :
    let reply := (ofText dump table sink).run requests
    ∃ last, (SlicingReader.ofText dump keys).run? requests =
        some (reply.answer.map Response.sliced, last) ∧
      last.seen = Event.seen reply.events ∧
      last.finish? = some reply.reader.finish ∧
      last.offset = reply.reader.offset ∧
      last.offset = Text.utf8Size reply.reader.consumed ∧
      last.remaining? = some reply.reader.remaining ∧
      reply.reader.consumed ++ reply.reader.remaining = dump ∧
      last.offset ≤ Text.utf8Size dump ∧
      ∀ more, ∃ answers further, last.run? more = some (answers, further) ∧
        last.offset ≤ further.offset := by
  intro reply
  have hkeys : table.texts = keys := KeyTable.texts_of_ofTexts accepted
  have hfirst : SlicingReader.ofText dump keys = (ofText dump table sink).sliced [] := by
    rw [← hkeys]
    rfl
  have hdump : reply.reader.dump = dump := dump_run (ofText dump table sink) requests
  have hrun := run?_sliced [] (ofText dump table sink) requests
  refine ⟨reply.reader.sliced (Event.seen reply.events), ?_, rfl, ?_, rfl, rfl, ?_, hdump, ?_, ?_⟩
  · rw [hfirst]
    exact hrun
  · exact finish?_sliced _ _
  · exact remaining?_sliced _ _
  · have hle := reply.reader.offset_le_dump
    rwa [hdump] at hle
  · intro more
    exact ⟨_, _, run?_sliced _ _ more, reply.reader.offset_le_run more⟩

/-- Characters of one to four bytes, in the dump and in the keys. -/
theorem run_slices_wide :
    ∃ table, KeyTable.ofTexts ["é=".toList, "型 𝒯=".toList] = .ok table ∧
      ∃ answers last,
        (SlicingReader.ofText " 型 𝒯=ж(é) 'ж'\n𝒯@\n ж:1:2".toList
            ["é=".toList, "型 𝒯=".toList]).run?
          [.canRead .key, .read .key, .read .identifierOrString, .read .key, .read .singleQuoted,
            .read .declaration] = some (answers, last) ∧
        last.seen = [(.key, "型 𝒯=".toList, 1), (.identifier, "ж(é)".toList, 10),
          (.singleQuoted, "'ж'".toList, 17), (.declaration, "𝒯@\n ж:1:2".toList, 22)] ∧
        last.offset = 35 ∧ last.finish? = some (.ok ()) := by
  have accepted : KeyTable.ofTexts ["é=".toList, "型 𝒯=".toList] =
      .ok ⟨[⟨"é".toList, by decide⟩, ⟨"型 𝒯".toList, by decide⟩]⟩ := by rfl
  obtain ⟨last, hrun, hseen, hfinish, hoffset, -⟩ :=
    run_slices accepted " 型 𝒯=ж(é) 'ж'\n𝒯@\n ж:1:2".toList none
      [.canRead .key, .read .key, .read .identifierOrString, .read .key, .read .singleQuoted,
        .read .declaration]
  refine ⟨_, accepted, _, last, hrun, ?_, ?_, ?_⟩
  · rw [hseen]
    decide +kernel
  · rw [hoffset]
    decide +kernel
  · rw [hfinish]
    decide +kernel

-- With a table that no check has seen, a key may end in the middle of a character.
example : ((SlicingReader.ofText "é".toList ["é".toList]).run? [.read .key]).isNone := by decide

end Reader
end TreeDump
