import TreeDump.Proofs.Slice
import TreeDump.Token.Read

/-! Tokens by their size. What stands at the start of a text is measured in bytes and then cut out by
offsets, its delimiters one byte each; this finds what is read character by character. -/
namespace TreeDump
namespace Text

/-- Bytes of the gap at the start of a text: those of the text less those behind the gap. -/
def gapSize? (t : Text) : Option Nat := minus? (utf8Size t) (utf8Size (skipGap t))

/-- A text without its first and its last byte. -/
def unwrap? (t : Text) : Option Text := do
  let stop ← minus? (utf8Size t) 1
  slice? t 1 stop

/-- A text without its last byte. -/
def strip? (t : Text) : Option Text := do
  let stop ← minus? (utf8Size t) 1
  upTo? t stop

@[simp] lemma gapSize?_eq (t : Text) : gapSize? t = some (utf8Size (gap t)) := by
  have h : utf8Size t = utf8Size (gap t) + utf8Size (skipGap t) := by
    rw [← utf8Size_append, gap_append_skipGap]
  rw [gapSize?, h, minus?_add]

lemma strip?_append (t : Text) {c : Char} (hc : c.utf8Size = 1) : strip? (t ++ [c]) = some t := by
  have hsize : utf8Size (t ++ [c]) = utf8Size t + 1 := by simp [hc]
  simp only [strip?, hsize, minus?_add, Option.bind_eq_bind, Option.bind_some]
  exact upTo?_of_append rfl

lemma unwrap?_cons_append {o : Char} (ho : o.utf8Size = 1) (t : Text) {c : Char}
    (hc : c.utf8Size = 1) : unwrap? (o :: (t ++ [c])) = some t := by
  have hsize : utf8Size (o :: (t ++ [c])) = 1 + utf8Size t + 1 := by
    simp only [utf8Size_cons, utf8Size_append, utf8Size_nil, ho, hc]
    omega
  have hslice : slice? (o :: (t ++ [c])) (utf8Size [o]) (utf8Size [o] + utf8Size t) = some t :=
    slice?_of_append rfl
  simp only [utf8Size_cons, utf8Size_nil, ho] at hslice
  simpa [unwrap?, hsize, minus?_add] using hslice

end Text

/-- What a read cuts out at the start of a text: its size in bytes, and what the caller receives. -/
structure Cutting where
  size : Nat
  payload : Text
  deriving DecidableEq, Repr

def Token.cutting (token : Token) : Cutting := ⟨Text.utf8Size token.text, token.payload⟩

/-- Cuts out the match of a pattern, if there is one, and takes the payload out of the match. -/
def cutMatch? (size? : Option Nat) (extract? : Text → Option Text) (t : Text) :
    Option (Option Cutting) :=
  match size? with
  | none => some none
  | some size => do
    let matched ← Text.upTo? t size
    let payload ← extract? matched
    return some ⟨size, payload⟩

def Delimiters.matchSize? (d : Delimiters) (t : Text) : Option Nat :=
  (d.read? t).map fun found => Text.utf8Size (d.wrap found.1)

def Location.matchSize? (t : Text) : Option Nat :=
  (Location.read? t).map fun found => Text.utf8Size found.1.text

namespace Identifier

/-- Bytes of the identifier at the start of a text, where `balance` groups are open. -/
def size (balance : Nat) : Text → Nat
  | [] => 0
  | c :: r =>
    if Text.isGap c then 0
    else if c = '(' then c.utf8Size + size (balance + 1) r
    else if c = ')' then
      match balance with
      | 0 => 0
      | outer + 1 => c.utf8Size + size outer r
    else c.utf8Size + size balance r

def cut? (t : Text) : Option (Option Cutting) :=
  if starts t then do
    let name ← Text.upTo? t (size 0 t)
    return some ⟨size 0 t, name⟩
  else some none

end Identifier

namespace Key

def matchSize? (t : Text) : Option Nat :=
  (readGeneric? t).map fun found => Text.utf8Size (text found.1)

/-- Cuts out the first key of a list that stands there, up to its last byte, or else any key. -/
def cut? (keys : List Text) (t : Text) : Option (Option Cutting) :=
  match keys.find? fun key => key.isPrefixOf t with
  | some key => do
    let stop ← Text.minus? (Text.utf8Size key) 1
    let name ← Text.upTo? t stop
    return some ⟨Text.utf8Size key, name⟩
  | none => cutMatch? (matchSize? t) Text.strip? t

end Key

namespace Declaration

/-- Bytes of a name with the at sign behind it. -/
def nameSize? (t : Text) : Option Nat :=
  (readName? t).map fun found => Text.utf8Size (found.1 ++ ['@'])

/-- Cuts out a name and a location, and puts them together without the gap between them. -/
def cut? (t : Text) : Option (Option Cutting) :=
  match nameSize? t with
  | none => some none
  | some nameSize => do
    let behind ← Text.from? t nameSize
    let gapSize ← Text.gapSize? behind
    let placed ← Text.from? t (nameSize + gapSize)
    match Location.matchSize? placed with
    | none => return none
    | some placeSize =>
      let stop ← Text.minus? nameSize 1
      let name ← Text.upTo? t stop
      let place ← Text.slice? t (nameSize + gapSize) (nameSize + gapSize + placeSize)
      return some ⟨nameSize + gapSize + placeSize, name ++ '@' :: place⟩

end Declaration

namespace Kind

/-- Whether a token of the kind stands at the start of a text, with the composed keys in a list. -/
def stands (keys : List Text) (t : Text) (kind : Kind) : Bool :=
  (kind == .key && keys.any fun key => key.isPrefixOf t) || kind.starts .empty t

/-- What is cut out for a kind, if it stands there. What stands for several kinds has no pattern of its
own. -/
def cut? (keys : List Text) (t : Text) : Kind → Option (Option Cutting)
  | openParen => some (if Text.startsWith '(' t then some ⟨1, []⟩ else none)
  | closeParen => some (if Text.startsWith ')' t then some ⟨1, []⟩ else none)
  | identifier => Identifier.cut? t
  | doubleQuoted => cutMatch? (Delimiters.doubleQuotes.matchSize? t) Text.unwrap? t
  | singleQuoted => cutMatch? (Delimiters.singleQuotes.matchSize? t) Text.unwrap? t
  | bracketed => cutMatch? (Delimiters.brackets.matchSize? t) Text.unwrap? t
  | identifierOrString => some none
  | key => Key.cut? keys t
  | location => cutMatch? (Location.matchSize? t) some t
  | declaration => Declaration.cut? t

end Kind

lemma cutMatch?_of_append {extract? : Text → Option Text} {matched payload : Text}
    (h : extract? matched = some payload) (rest : Text) :
    cutMatch? (some (Text.utf8Size matched)) extract? (matched ++ rest) =
      some (some ⟨Text.utf8Size matched, payload⟩) := by
  simp [cutMatch?, Text.upTo?_of_append rfl, h]

namespace Token

/-- A pattern cuts out what a reader of characters finds, if it matches the token that this makes of it
and its payload can be taken out of that. -/
lemma cutMatch?_readAs? {α : Type} (make : α → Token) (extract? : Text → Option Text)
    {found : Option (α × Text)} {t : Text}
    (stands : ∀ content rest, found = some (content, rest) → (make content).text ++ rest = t)
    (extracts : ∀ content, extract? (make content).text = some (make content).payload) :
    cutMatch? (found.map fun found => Text.utf8Size (make found.1).text) extract? t =
      some ((readAs? make found).map fun found => found.1.cutting) := by
  cases found with
  | none => rfl
  | some p =>
    obtain ⟨content, rest⟩ := p
    rw [← stands content rest rfl]
    exact cutMatch?_of_append (extracts content) rest

lemma cut?_paren (c : Char) (token : Token) (t : Text) (htext : token.text = [c])
    (hpayload : token.payload = []) (hc : c.utf8Size = 1) :
    (if Text.startsWith c t then some (⟨1, []⟩ : Cutting) else none) =
      (readChar? c token t).map fun found => found.1.cutting := by
  cases t with
  | nil => rfl
  | cons d r =>
    by_cases hd : d = c
    · simp [readChar?, Text.startsWith, hd, cutting, htext, hpayload, hc]
    · simp [readChar?, Text.startsWith, hd]

end Token

namespace Identifier

/-- The scan that counts bytes stops where the one that splits the text does. -/
lemma size_eq (balance : Nat) (t : Text) : size balance t = Text.utf8Size (split balance t).1 := by
  induction t generalizing balance with
  | nil => rfl
  | cons c r ih =>
    unfold size split
    split
    · rfl
    · split
      · simp [ih]
      · split
        · cases balance with
          | zero => rfl
          | succ outer => simp [ih]
        · simp [ih]

lemma cut?_eq (t : Text) :
    cut? t = some ((Token.readAs? .identifier (read? t)).map fun found => found.1.cutting) := by
  unfold cut? read?
  by_cases h : starts t = true
  · have hcut : Text.upTo? t (size 0 t) = some (split 0 t).1 := by
      rw [size_eq]
      exact Text.upTo?_of_append (split_append 0 t)
    rw [if_pos h, if_pos h, hcut, size_eq]
    rfl
  · rw [if_neg h, if_neg h]
    rfl

end Identifier

namespace Key

lemma find?_texts (table : KeyTable) (t : Text) :
    (table.texts.find? fun key => key.isPrefixOf t) = (table.match? t).map ComposedKey.text :=
  List.find?_map

lemma cut?_eq (table : KeyTable) (t : Text) :
    cut? table.texts t =
      some ((Token.readAs? .key (read? table t)).map fun found => found.1.cutting) := by
  unfold cut? read?
  rw [find?_texts]
  cases h : table.match? t with
  | some k =>
    obtain ⟨rest, hrest⟩ := KeyTable.isPrefix_of_match? h
    -- A composed key ends in an equals sign, which is one byte.
    have hsize : Text.utf8Size k.text = Text.utf8Size k.name + 1 := Text.utf8Size_append k.name ['=']
    have hname : Text.upTo? t (Text.utf8Size k.name) = some k.name :=
      Text.upTo?_of_append ((List.append_assoc _ _ _).symm.trans hrest)
    simp only [Option.map_some, Option.bind_eq_bind, hsize, Text.minus?_add, Option.bind_some, hname]
    exact congrArg (fun size => some (some (⟨size, k.name⟩ : Cutting))) hsize.symm
  | none =>
    exact Token.cutMatch?_readAs? .key Text.strip? (fun _ _ => text_append_of_readGeneric?)
      fun name => Text.strip?_append name rfl

end Key

namespace Declaration

lemma cut?_eq (t : Text) :
    cut? t = some ((Token.readAs? .declaration (read? t)).map fun found => found.1.cutting) := by
  unfold cut? nameSize? read?
  cases hn : readName? t with
  | none => rfl
  | some p =>
    obtain ⟨name, r⟩ := p
    have hname : name ++ '@' :: r = t := (append_of_readName? hn).1
    have hsign : (name ++ ['@']) ++ r = t := by rw [List.append_assoc]; exact hname
    have hgap : ((name ++ ['@']) ++ Text.gap r) ++ Text.skipGap r = t := by
      rw [List.append_assoc, Text.gap_append_skipGap]
      exact hsign
    -- The at sign is one byte.
    have hstop : Text.minus? (Text.utf8Size (name ++ ['@'])) 1 = some (Text.utf8Size name) :=
      (congrArg (Text.minus? · 1) (Text.utf8Size_append name ['@'])).trans (Text.minus?_add _ _)
    have hplaced : Text.from? t (Text.utf8Size (name ++ ['@']) + Text.utf8Size (Text.gap r)) =
        some (Text.skipGap r) := by
      rw [← Text.utf8Size_append]
      exact Text.from?_of_append hgap
    simp only [Option.map_some, Option.bind_eq_bind, Option.bind_some, Text.from?_of_append hsign,
      Text.gapSize?_eq, hplaced]
    unfold Location.matchSize?
    cases hl : Location.read? (Text.skipGap r) with
    | none => rfl
    | some q =>
      obtain ⟨place, rest⟩ := q
      have hplace : Text.slice? t (Text.utf8Size (name ++ ['@']) + Text.utf8Size (Text.gap r))
          (Text.utf8Size (name ++ ['@']) + Text.utf8Size (Text.gap r) + Text.utf8Size place.text) =
            some place.text := by
        rw [← Text.utf8Size_append, ← hgap, ← Location.text_append_of_read? hl]
        exact Text.slice?_of_append rfl
      have hsize : Text.utf8Size (name ++ ['@']) + Text.utf8Size (Text.gap r) +
          Text.utf8Size place.text = Text.utf8Size (text ⟨name, Text.gap r, place⟩) := by
        simp only [text, ← Text.utf8Size_append, List.append_assoc]
        rfl
      simp only [Option.map_some, hstop, Option.bind_some, Text.upTo?_of_append hname, hplace]
      rw [hsize]
      rfl

end Declaration

namespace Kind

lemma stands_texts (table : KeyTable) (t : Text) (kind : Kind) :
    kind.stands table.texts t = kind.starts table t := by
  cases kind with
  | key =>
    simp [stands, starts, Key.starts, KeyTable.texts, KeyTable.empty, List.any_map,
      Function.comp_def]
  | _ => rfl

/-- Every cut falls between two characters, and what is cut out is what is read. -/
theorem cut?_eq (table : KeyTable) (t : Text) {kind : Kind} (hs : kind ≠ .identifierOrString) :
    kind.cut? table.texts t =
      some ((Token.read? table t kind).map fun found => found.1.cutting) := by
  cases kind with
  | openParen => exact congrArg some (Token.cut?_paren '(' .openParen t rfl rfl rfl)
  | closeParen => exact congrArg some (Token.cut?_paren ')' .closeParen t rfl rfl rfl)
  | identifier => exact Identifier.cut?_eq t
  | doubleQuoted =>
    exact Token.cutMatch?_readAs? .doubleQuoted Text.unwrap?
      (fun _ _ => Delimiters.wrap_append_of_read?)
      fun content => Text.unwrap?_cons_append rfl content rfl
  | singleQuoted =>
    exact Token.cutMatch?_readAs? .singleQuoted Text.unwrap?
      (fun _ _ => Delimiters.wrap_append_of_read?)
      fun content => Text.unwrap?_cons_append rfl content rfl
  | bracketed =>
    exact Token.cutMatch?_readAs? .bracketed Text.unwrap?
      (fun _ _ => Delimiters.wrap_append_of_read?)
      fun content => Text.unwrap?_cons_append rfl content rfl
  | identifierOrString => exact absurd rfl hs
  | key => exact Key.cut?_eq table t
  | location =>
    exact Token.cutMatch?_readAs? .location some (fun _ _ => Location.text_append_of_read?)
      fun _ => rfl
  | declaration => exact Declaration.cut?_eq t

end Kind
end TreeDump
