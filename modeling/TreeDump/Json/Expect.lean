import TreeDump.Json.Number

/-! Reading JSON where the kind of value is known. A value of another kind is read as well, as far as
it takes to say what it is. -/
namespace TreeDump
namespace Json

/-- What stands at the start of a text that begins with no blank, and the text after it. Of a list or
an object only the bracket is looked at, and it is not passed. -/
def scanFound (t : Text) : Except Fault (Found × Text) :=
  match t with
  | [] => .error (.atEnd .endInValue)
  | c :: r =>
    if c = 'n' then (scanWord "ull".toList r).map (.null, ·)
    else if c = 't' then (scanWord "rue".toList r).map (.boolean true, ·)
    else if c = 'f' then (scanWord "alse".toList r).map (.boolean false, ·)
    else if c = '"' then (scanString 0 r).map fun (s, rest) => (.string s, rest)
    else if c = '[' then .ok (.list, c :: r)
    else if c = '\x7b' then .ok (.object, c :: r)
    else if c = '-' ∨ c.isDigit then do
      let (numeral, rest) ← scanNumeral .endInValue (c :: r)
      return (← numberValue numeral rest, rest)
    else .error (.peeking .expectedValue (c :: r))

def mismatch (expected : Expected) (t : Text) : Fault :=
  match scanFound t with
  | .error f => f
  | .ok (found, rest) => .before (.invalidType found expected) rest

/-- Nothing but blanks may follow a whole text. -/
def scanEnd (t : Text) : Except Fault Unit :=
  match skipBlanks t with
  | [] => .ok ()
  | r => .error (.peeking .trailingCharacters r)

/-- Scans a string of a list, if the list does not end here. A comma stands in front of any but the
first. -/
def scanElement (first : Bool) (t : Text) : Except Fault (Option Text × Text) :=
  let element (t : Text) : Except Fault (Option Text × Text) :=
    match t with
    | '"' :: r => (scanString 0 r).map fun (s, rest) => (some s, rest)
    | r => .error (mismatch .string r)
  match skipBlanks t with
  | [] => .error (.atEnd .endInList)
  | c :: r =>
    if c = ']' then .ok (none, r)
    else if first then element (c :: r)
    else if c = ',' then
      match skipBlanks r with
      | [] => .error (.atEnd .endInValue)
      | ']' :: rest => .error (.peeking .trailingComma (']' :: rest))
      | rest => element rest
    else .error (.peeking .expectedListEnd (c :: r))

/-- A scanned element leaves less text than there was, and so does the end of a list. -/
theorem length_lt_of_scanElement {first : Bool} {t rest : Text} {s : Option Text}
    (h : scanElement first t = .ok (s, rest)) : rest.length < t.length := by
  have element : ∀ {r : Text},
      (match r with
        | '"' :: r => (scanString 0 r).map fun (s, rest) => (some s, rest)
        | r => .error (mismatch .string r) : Except Fault (Option Text × Text)) =
        .ok (s, rest) → rest.length < r.length := by
    intro r hr
    split at hr
    · next q =>
      cases hs : scanString 0 q with
      | error f => rw [hs] at hr; cases hr
      | ok p =>
        rw [hs] at hr
        cases hr
        have hl := length_lt_of_scanString hs
        simp only [List.length_cons]
        omega
    · cases hr
  have hb := length_skipBlanks_le t
  unfold scanElement at h
  dsimp only at h
  split at h
  · cases h
  · next c r hc =>
    rw [hc] at hb
    split at h
    · cases h
      rw [List.length_cons] at hb
      omega
    · split at h
      · have hl := element h
        omega
      · split at h
        · have hb' := length_skipBlanks_le r
          rw [List.length_cons] at hb
          split at h
          · cases h
          · cases h
          · have hl := element h
            omega
        · cases h

/-- Scans the strings of a list up to its end, after the opening bracket if `first`, or else after a
string of the list. -/
def scanStrings (first : Bool) (t : Text) : Except Fault (List Text × Text) :=
  match _h : scanElement first t with
  | .error f => .error f
  | .ok (none, rest) => .ok ([], rest)
  | .ok (some s, rest) => (scanStrings false rest).map fun (more, last) => (s :: more, last)
termination_by t.length
decreasing_by exact length_lt_of_scanElement _h

theorem length_lt_of_scanStrings {first : Bool} {t rest : Text} {strings : List Text}
    (h : scanStrings first t = .ok (strings, rest)) : rest.length < t.length := by
  fun_induction scanStrings first t generalizing strings with
  | case1 first t f hs => cases h
  | case2 first t last hs =>
    cases h
    exact length_lt_of_scanElement hs
  | case3 first t s last hs ih =>
    cases hm : scanStrings false last with
    | error f => rw [hm] at h; cases h
    | ok p =>
      rw [hm] at h
      cases h
      exact Nat.lt_trans (ih hm) (length_lt_of_scanElement hs)

def scanStringList (t : Text) : Except Fault (List Text × Text) :=
  match skipBlanks t with
  | '[' :: r => scanStrings true r
  | r => .error (mismatch .list r)

theorem length_lt_of_scanStringList {t rest : Text} {strings : List Text}
    (h : scanStringList t = .ok (strings, rest)) : rest.length < t.length := by
  have hb := length_skipBlanks_le t
  unfold scanStringList at h
  split at h
  · next hc =>
    rw [hc, List.length_cons] at hb
    have hl := length_lt_of_scanStrings h
    omega
  · cases h

end Json
end TreeDump
