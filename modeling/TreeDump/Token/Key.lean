import TreeDump.KeyTable
import TreeDump.Token.Identifier

/-! Keys: a name and the equals sign after it. The composed keys of the table come first, and then
any run of name characters will do. -/
namespace TreeDump
namespace Key

/-- Characters of a key that is in no table. -/
def isChar (c : Char) : Bool := isNameChar c && c != '='

def text (name : Text) : Text := name ++ ['=']

/-- Whether a key that need not be in a table stands at the start of a text. -/
def startsGeneric : Text → Bool
  | [] => false
  | c :: r => isChar c && (r.dropWhile isChar).head? == some '='

def starts (table : KeyTable) (t : Text) : Bool :=
  table.keys.any (fun k => k.text.isPrefixOf t) || startsGeneric t

/-- The name of a key that need not be in a table, and what follows the key. -/
def readGeneric? (t : Text) : Option (Text × Text) :=
  match t.takeWhile isChar, t.dropWhile isChar with
  | c :: name, '=' :: rest => some (c :: name, rest)
  | _, _ => none

/-- The name of the key at the start of a text, and what follows the key. -/
def read? (table : KeyTable) (t : Text) : Option (Text × Text) :=
  match table.match? t with
  | some k => some (k.name, t.drop k.text.length)
  | none => readGeneric? t

theorem readGeneric?_isSome (t : Text) : (readGeneric? t).isSome = startsGeneric t := by
  unfold readGeneric? startsGeneric
  cases t with
  | nil => rfl
  | cons c r =>
    by_cases hc : isChar c = true
    · cases hd : r.dropWhile isChar with
      | nil => simp [hc, hd]
      | cons e q => by_cases he : e = '=' <;> simp [hc, hd, he]
    · simp [hc]

theorem read?_isSome (table : KeyTable) (t : Text) :
    (read? table t).isSome = starts table t := by
  unfold read? starts
  rw [← KeyTable.match?_isSome]
  cases table.match? t with
  | some k => rfl
  | none => simpa using readGeneric?_isSome t

theorem text_append_of_readGeneric? {t name rest : Text}
    (h : readGeneric? t = some (name, rest)) : text name ++ rest = t := by
  unfold readGeneric? at h
  split at h
  · next c name' rest' hc hd =>
    cases h
    have hr := List.takeWhile_append_dropWhile (p := isChar) (l := t)
    rw [hc, hd] at hr
    simpa [text] using hr
  · cases h

/-- A reading takes the key with its equals sign off the front of the text. -/
theorem text_append_of_read? {table : KeyTable} {t name rest : Text}
    (h : read? table t = some (name, rest)) : text name ++ rest = t := by
  unfold read? at h
  split at h
  · next k hk =>
    cases h
    obtain ⟨r, hr⟩ := KeyTable.isPrefix_of_match? hk
    rw [← hr, List.drop_left]
    rfl
  · exact text_append_of_readGeneric? h

end Key
end TreeDump
