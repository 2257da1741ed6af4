import TreeDump.Json.Expect
import TreeDump.Json.Skip
import TreeDump.KeyTable

/-! Settings of a reader: the composed keys that it is to know. In JSON they are read from an object with
the member `composed_keys`, among any others, or from a list with the keys as its only element. What is
missing has its standard value. -/
namespace TreeDump

/-- Settings as they were given. The keys need not be composed keys. -/
structure Settings where
  composedKeys : List Text
  deriving DecidableEq, Repr

namespace Settings

/-- The composed keys that are known where none are set. -/
def standardKeys : List Text := ["interface type=".toList]

def standard : Settings := ⟨standardKeys⟩

/-- Checks the keys in order, without making a table. -/
def validate (settings : Settings) : Except Error Unit :=
  settings.composedKeys.forM fun key =>
    match KeyFault.of? key with
    | some fault => .error (fault.error key)
    | none => .ok ()

def table (settings : Settings) : Except Error KeyTable := KeyTable.ofTexts settings.composedKeys

theorem texts_standard : KeyTable.standard.texts = standardKeys := rfl

open Json (Fault)

def keysName : Text := "composed_keys".toList

/-- Scans the name of a member of an object, if the object does not end here. A comma stands in front
of any but the first. -/
def scanMember (first : Bool) (t : Text) : Except Fault (Option Text × Text) :=
  match Json.skipBlanks t with
  | [] => .error (.atEnd .endInObject)
  | c :: r =>
    if c = '\x7d' then .ok (none, r)
    else if first then
      if c = '"' then (Json.scanString 0 r).map fun (name, rest) => (some name, rest)
      else .error (.peeking .keyNotString (c :: r))
    else if c = ',' then
      match Json.skipBlanks r with
      | [] => .error (.atEnd .endInValue)
      | '"' :: r => (Json.scanString 0 r).map fun (name, rest) => (some name, rest)
      | '\x7d' :: r => .error (.peeking .trailingComma ('\x7d' :: r))
      | r => .error (.peeking .keyNotString r)
    else .error (.peeking .expectedObjectEnd (c :: r))

theorem length_lt_of_scanMember {first : Bool} {t name rest : Text}
    (h : scanMember first t = .ok (some name, rest)) : rest.length < t.length := by
  have string : ∀ {r : Text},
      (Json.scanString 0 r).map (fun (name, rest) => (some name, rest)) = .ok (some name, rest) →
        rest.length < r.length := by
    intro r hr
    cases hs : Json.scanString 0 r with
    | error f => rw [hs] at hr; cases hr
    | ok p =>
      rw [hs] at hr
      cases hr
      exact Json.length_lt_of_scanString hs
  have hb := Json.length_skipBlanks_le t
  unfold scanMember at h
  split at h
  · cases h
  · next c r hc =>
    rw [hc, List.length_cons] at hb
    split at h
    · cases h
    · split at h
      · split at h
        · have hl := string h
          omega
        · cases h
      · split at h
        · have hb' := Json.length_skipBlanks_le r
          split at h
          · cases h
          · next hq =>
            rw [hq, List.length_cons] at hb'
            have hl := string h
            omega
          · cases h
          · cases h
        · cases h

/-- The fault of a second list of composed keys. It is noticed after the name, or after the end of
the object if that follows at once. -/
def repeatedKeys (t : Text) : Fault :=
  match Json.skipBlanks t with
  | '\x7d' :: r => .before (.repeatedMember keysName) r
  | r => .before (.repeatedMember keysName) r

/-- Scans the value of a member, where `keys` are the composed keys that have been found so far. -/
def scanMemberValue (name : Text) (keys : Option (List Text)) (t : Text) :
    Except Fault (Option (List Text) × Text) :=
  if name = keysName then
    if keys.isSome then .error (repeatedKeys t)
    else
      match Json.scanColon t with
      | .error f => .error f
      | .ok r => (Json.scanStringList r).map fun (found, rest) => (some found, rest)
  else
    match Json.scanColon t with
    | .error f => .error f
    | .ok r => (Json.skipValue r).map (keys, ·)

theorem length_le_of_scanMemberValue {name t rest : Text} {keys found : Option (List Text)}
    (h : scanMemberValue name keys t = .ok (found, rest)) : rest.length ≤ t.length := by
  unfold scanMemberValue at h
  split at h
  · split at h
    · cases h
    · split at h
      · cases h
      · next r hc =>
        have h1 := Json.length_le_of_scanColon hc
        cases hs : Json.scanStringList r with
        | error f => rw [hs] at h; cases h
        | ok p =>
          rw [hs] at h
          cases h
          have h2 := Json.length_lt_of_scanStringList hs
          omega
  · split at h
    · cases h
    · next r hc =>
      have h1 := Json.length_le_of_scanColon hc
      cases hs : Json.skipValue r with
      | error f => rw [hs] at h; cases h
      | ok last =>
        rw [hs] at h
        cases h
        have h2 := Json.length_lt_of_skipValues hs
        omega

/-- Scans the members of an object up to its end, and gives the composed keys if they are among
them. -/
def scanMembers (first : Bool) (keys : Option (List Text)) (t : Text) :
    Except Fault (Option (List Text) × Text) :=
  match _hm : scanMember first t with
  | .error f => .error f
  | .ok (none, rest) => .ok (keys, rest)
  | .ok (some name, rest) =>
    match _hv : scanMemberValue name keys rest with
    | .error f => .error f
    | .ok (found, last) => scanMembers false found last
termination_by t.length
decreasing_by
  exact Nat.lt_of_le_of_lt (length_le_of_scanMemberValue _hv) (length_lt_of_scanMember _hm)

/-- What must follow the only element of a list. -/
def scanListEnd (t : Text) : Except Fault Text :=
  match Json.skipBlanks t with
  | [] => .error (.atEnd .endInList)
  | c :: r =>
    if c = ']' then .ok r
    else if c = ',' then
      match Json.skipBlanks r with
      | ']' :: r => .error (.peeking .trailingComma (']' :: r))
      | r => .error (.peeking .trailingCharacters r)
    else .error (.peeking .trailingCharacters (c :: r))

/-- Scans the composed keys from the only element of a list, after the opening bracket. -/
def scanElements (t : Text) : Except Fault (Option (List Text) × Text) :=
  match Json.skipBlanks t with
  | [] => .error (.atEnd .endInList)
  | ']' :: r => .ok (none, r)
  | r =>
    match Json.scanStringList r with
    | .error f => .error f
    | .ok (keys, rest) => (scanListEnd rest).map (some keys, ·)

/-- Scans settings, which need not be valid. -/
def scan (t : Text) : Except Fault (Settings × Text) :=
  let found : Except Fault (Option (List Text) × Text) :=
    match Json.skipBlanks t with
    | '[' :: r => scanElements r
    | '\x7b' :: r => scanMembers true none r
    | r => .error (Json.mismatch .settings r)
  found.map fun (keys, rest) => (⟨keys.getD standardKeys⟩, rest)

/-- Reads settings from JSON. The keys are checked once all of the text has been read. -/
def ofJson (t : Text) : Except Error Settings :=
  match scan t with
  | .error f => .error (.settings (f.describe t))
  | .ok (settings, rest) =>
    match Json.scanEnd rest with
    | .error f => .error (.settings (f.describe t))
    | .ok () =>
      match settings.validate with
      | .error e => .error e
      | .ok () => .ok settings

def toJson (settings : Settings) : Text :=
  '\x7b' :: (Json.writeString keysName ++ ':' :: (Json.writeStrings settings.composedKeys ++ ['\x7d']))

end Settings
end TreeDump
