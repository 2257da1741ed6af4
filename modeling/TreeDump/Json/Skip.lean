import TreeDump.Json.Number

/-! Skipping a JSON value that nobody needs. The value must be well formed, but its numbers may be of
any size and its strings may escape what is no character. Open brackets are kept on a stack, so
values may nest to any depth. -/
namespace TreeDump
namespace Json

/-- An opening bracket that waits for its closing one. -/
inductive Bracket where
  | list
  | object
  deriving DecidableEq, Repr

namespace Bracket

def closing : Bracket → Char
  | list => ']'
  | object => '\x7d'

/-- The cause of a fault at the end of a text inside the bracket. -/
def atEnd : Bracket → Cause
  | list => .endInList
  | object => .endInObject

/-- The cause of a fault where neither a comma nor the closing bracket follows a value. -/
def unclosed : Bracket → Cause
  | list => .expectedListEnd
  | object => .expectedObjectEnd

end Bracket

/-- Skips what stands before a value inside a bracket: in an object, the name of the member. -/
def skipName (bracket : Bracket) (t : Text) : Except Fault Text :=
  match bracket with
  | .list => .ok t
  | .object =>
    match skipBlanks t with
    | [] => .error (.atEnd .endInObject)
    | c :: r =>
      if c = '"' then
        match skipString 0 r with
        | .error f => .error f
        | .ok rest => scanColon rest
      else .error (.peeking .keyNotString (c :: r))

/-- Goes on after a value, or after an opening bracket if `opened`: closes the brackets that end here
and stops before the next value. No bracket is left open after the last value. -/
def nextValue (opened : Bool) : List Bracket → Text → Except Fault (List Bracket × Text)
  | [], t => .ok ([], t)
  | bracket :: outer, t =>
    match skipBlanks t with
    | [] => .error (.atEnd bracket.atEnd)
    | c :: r =>
      if c = bracket.closing then nextValue false outer r
      else if opened then
        match skipName bracket (c :: r) with
        | .error f => .error f
        | .ok rest => .ok (bracket :: outer, rest)
      else if c = ',' then
        match skipName bracket r with
        | .error f => .error f
        | .ok rest => .ok (bracket :: outer, rest)
      else .error (.peeking bracket.unclosed (c :: r))

def skipScalar (t : Text) : Except Fault Text :=
  match t with
  | [] => .error (.atEnd .endInValue)
  | c :: r =>
    if c = 'n' then scanWord "ull".toList r
    else if c = 't' then scanWord "rue".toList r
    else if c = 'f' then scanWord "alse".toList r
    else if c = '"' then skipString 0 r
    else if c = '-' ∨ c.isDigit then
      match scanNumeral .invalidNumber (c :: r) with
      | .error f => .error f
      | .ok (_, rest) => .ok rest
    else .error (.peeking .expectedValue (c :: r))

/-- Skips one scalar or one opening bracket, and what stands between it and the next value. -/
def skipPart (stack : List Bracket) (t : Text) : Except Fault (List Bracket × Text) :=
  match skipBlanks t with
  | '[' :: r => nextValue true (.list :: stack) r
  | '\x7b' :: r => nextValue true (.object :: stack) r
  | r =>
    match skipScalar r with
    | .error f => .error f
    | .ok rest => nextValue false stack rest

theorem length_le_of_skipName {bracket : Bracket} {t rest : Text}
    (h : skipName bracket t = .ok rest) : rest.length ≤ t.length := by
  cases bracket with
  | list => cases h; exact Nat.le_refl _
  | object =>
    have hb := length_skipBlanks_le t
    simp only [skipName] at h
    split at h
    · cases h
    · next c r hc =>
      rw [hc, List.length_cons] at hb
      split at h
      · split at h
        · cases h
        · next last hs =>
          have h1 := length_lt_of_skipString hs
          have h2 := length_le_of_scanColon h
          omega
      · cases h

theorem length_le_of_nextValue {opened : Bool} {stack left : List Bracket} {t rest : Text}
    (h : nextValue opened stack t = .ok (left, rest)) : rest.length ≤ t.length := by
  induction stack generalizing opened t with
  | nil => cases h; exact Nat.le_refl _
  | cons bracket outer ih =>
    have hb := length_skipBlanks_le t
    unfold nextValue at h
    split at h
    · cases h
    · next c r hc =>
      rw [hc, List.length_cons] at hb
      split at h
      · have hl := ih h; omega
      · split at h
        · split at h
          · cases h
          · next hn =>
            cases h
            have hl := length_le_of_skipName hn
            rw [List.length_cons] at hl
            omega
        · split at h
          · split at h
            · cases h
            · next hn =>
              cases h
              have hl := length_le_of_skipName hn
              omega
          · cases h

theorem length_lt_of_skipScalar {t rest : Text} (h : skipScalar t = .ok rest) :
    rest.length < t.length := by
  have word : ∀ {w r : Text}, scanWord w r = .ok rest → rest.length ≤ r.length := by
    intro w r hw
    rw [← append_of_scanWord hw, List.length_append]
    omega
  unfold skipScalar at h
  split at h
  · cases h
  · next c r =>
    simp only [List.length_cons]
    split at h
    · have hl := word h; omega
    · split at h
      · have hl := word h; omega
      · split at h
        · have hl := word h; omega
        · split at h
          · have hl := length_lt_of_skipString h; omega
          · split at h
            · split at h
              · cases h
              · next hn =>
                cases h
                have hl := length_lt_of_scanNumeral hn
                rw [List.length_cons] at hl
                omega
            · cases h

theorem length_lt_of_skipPart {stack left : List Bracket} {t rest : Text}
    (h : skipPart stack t = .ok (left, rest)) : rest.length < t.length := by
  have hb := length_skipBlanks_le t
  unfold skipPart at h
  split at h
  · next hc =>
    rw [hc, List.length_cons] at hb
    have hl := length_le_of_nextValue h
    omega
  · next hc =>
    rw [hc, List.length_cons] at hb
    have hl := length_le_of_nextValue h
    omega
  · split at h
    · cases h
    · next hs =>
      have h1 := length_lt_of_skipScalar hs
      have h2 := length_le_of_nextValue h
      omega

/-- Skips the values that the open brackets wait for, part by part. -/
def skipValues (stack : List Bracket) (t : Text) : Except Fault Text :=
  match _h : skipPart stack t with
  | .error f => .error f
  | .ok ([], rest) => .ok rest
  | .ok (bracket :: outer, rest) => skipValues (bracket :: outer) rest
termination_by t.length
decreasing_by exact length_lt_of_skipPart _h

def skipValue (t : Text) : Except Fault Text := skipValues [] t

theorem length_lt_of_skipValues {stack : List Bracket} {t rest : Text}
    (h : skipValues stack t = .ok rest) : rest.length < t.length := by
  fun_induction skipValues stack t with
  | case1 stack t f hp => cases h
  | case2 stack t last hp =>
    cases h
    exact length_lt_of_skipPart hp
  | case3 stack t bracket outer last hp ih =>
    exact Nat.lt_trans (ih h) (length_lt_of_skipPart hp)

end Json
end TreeDump
