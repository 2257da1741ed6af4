import TreeDump.Error

/-! Composed keys: keys of a dump that contain blanks, such as `interface type=`. They are listed in
a table, and the first key of the table that stands at the cursor is the one that is read. -/
namespace TreeDump

/-- Why a text is no composed key. -/
inductive KeyFault where
  | empty
  | noTerminator
  | noName
  deriving DecidableEq, Repr

namespace KeyFault

def message : KeyFault → String
  | empty => "key is empty"
  | noTerminator => "key must end with '='"
  | noName => "key has no name before '='"

def of? (key : Text) : Option KeyFault :=
  if key = [] then some empty
  else if key.getLast? ≠ some '=' then some noTerminator
  else if key.length = 1 then some noName
  else none

def error (fault : KeyFault) (key : Text) : Error :=
  .invalidComposedKey key fault.message.toList

/-- What is wrong with a key that is not empty, by what stands before its last character. -/
theorem of?_append (start : Text) (c : Char) :
    of? (start ++ [c]) =
      if c ≠ '=' then some noTerminator else if start = [] then some noName else none := by
  by_cases hc : c = '=' <;> simp [of?, hc]

/-- A key with which nothing is wrong is a name and a final equals sign. -/
theorem dropLast_of_none {key : Text} (h : of? key = none) :
    key.dropLast ≠ [] ∧ key.dropLast ++ ['='] = key := by
  rcases List.eq_nil_or_concat key with rfl | ⟨start, c, rfl⟩
  · cases h
  · rw [List.concat_eq_append, of?_append] at h
    by_cases hc : c = '='
    · subst hc
      by_cases hs : start = []
      · simp [hs] at h
      · simp [hs]
    · simp [hc] at h

end KeyFault

/-- A composed key, by the name that stands before its final equals sign. -/
structure ComposedKey where
  name : Text
  name_ne_nil : name ≠ []
  deriving DecidableEq, Repr

namespace ComposedKey

def text (k : ComposedKey) : Text := k.name ++ ['=']

/-- The composed key that a text is, or the error that says what is wrong with it. -/
def ofText (key : Text) : Except Error ComposedKey :=
  match h : KeyFault.of? key with
  | some fault => .error (fault.error key)
  | none => .ok ⟨key.dropLast, (KeyFault.dropLast_of_none h).1⟩

theorem text_ne_nil (k : ComposedKey) : k.text ≠ [] := by simp [text]

theorem of?_text (k : ComposedKey) : KeyFault.of? k.text = none := by
  simp [text, KeyFault.of?_append, k.name_ne_nil]

@[simp] theorem ofText_text (k : ComposedKey) : ofText k.text = .ok k := by
  unfold ofText
  split
  · next hfault => cases (of?_text k).symm.trans hfault
  · simp [text]

theorem ofText_of_fault {key : Text} {fault : KeyFault} (h : KeyFault.of? key = some fault) :
    ofText key = .error (fault.error key) := by
  unfold ofText
  split
  · next hfault =>
    cases h.symm.trans hfault
    rfl
  · next hnone => cases h.symm.trans hnone

theorem text_of_ofText {key : Text} {k : ComposedKey} (h : ofText key = .ok k) : k.text = key := by
  unfold ofText at h
  split at h
  · cases h
  · next hnone =>
    cases h
    exact (KeyFault.dropLast_of_none hnone).2

end ComposedKey

/-- A table of composed keys. Its order is the order in which they are tried. -/
structure KeyTable where
  keys : List ComposedKey
  deriving DecidableEq, Repr

namespace KeyTable

def texts (table : KeyTable) : List Text := table.keys.map ComposedKey.text

def size (table : KeyTable) : Nat := table.keys.length

def isEmpty (table : KeyTable) : Bool := table.keys.isEmpty

def empty : KeyTable := ⟨[]⟩

def standard : KeyTable := ⟨[⟨"interface type".toList, by decide⟩]⟩

/-- The table in one line of text, for debugging. -/
def describe (table : KeyTable) : Text :=
  "ComposedKeys \x7b keys: [".toList ++
    Text.separatedBy ", ".toList (table.texts.map Text.quoted) ++ "] \x7d".toList

/-- Makes a table of the keys in a list, or reports the first that is none. -/
def ofTexts (keys : List Text) : Except Error KeyTable :=
  match keys with
  | [] => .ok empty
  | key :: more =>
    match ComposedKey.ofText key with
    | .error e => .error e
    | .ok k =>
      match ofTexts more with
      | .error e => .error e
      | .ok table => .ok ⟨k :: table.keys⟩

/-- The first key of the table that a text begins with. -/
def match? (table : KeyTable) (t : Text) : Option ComposedKey :=
  table.keys.find? fun k => k.text.isPrefixOf t

/-- A table keeps the order and the repetitions of the list that it was made of. -/
theorem texts_of_ofTexts {keys : List Text} {table : KeyTable} (h : ofTexts keys = .ok table) :
    table.texts = keys := by
  induction keys generalizing table with
  | nil => cases h; rfl
  | cons key more ih =>
    unfold ofTexts at h
    split at h
    · cases h
    · next k hk =>
      split at h
      · cases h
      · next rest hrest =>
        cases h
        simp only [texts, List.map_cons, ComposedKey.text_of_ofText hk]
        exact congrArg (key :: ·) (ih hrest)

@[simp] theorem ofTexts_texts (table : KeyTable) : ofTexts table.texts = .ok table := by
  obtain ⟨keys⟩ := table
  induction keys with
  | nil => rfl
  | cons k more ih =>
    simp only [texts, List.map_cons] at ih ⊢
    simp [ofTexts, ih]

theorem match?_isSome (table : KeyTable) (t : Text) :
    (table.match? t).isSome = table.keys.any fun k => k.text.isPrefixOf t := by
  unfold match?
  exact List.isSome_find?

theorem isPrefix_of_match? {table : KeyTable} {t : Text} {k : ComposedKey}
    (h : table.match? t = some k) : k.text <+: t := by
  unfold match? at h
  have hp := List.find?_some h
  exact List.isPrefixOf_iff_prefix.1 hp

end KeyTable
end TreeDump
