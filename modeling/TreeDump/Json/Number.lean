import TreeDump.Json.Scan

/-! Numbers of JSON: first as they are written, then by value. A number with neither point nor
exponent is an integer if it fits into 64 bits. Any other is a floating point number, computed from
the first digits that fit into 64 bits and a power of ten, with one rounding for each step. -/
namespace TreeDump
namespace Json

structure ExponentPart where
  negative : Bool
  digits : Text
  deriving DecidableEq, Repr

/-- A number as it is written. Where there is no point the fraction is empty. -/
structure Numeral where
  negative : Bool
  whole : Text
  fraction : Text
  exponent : Option ExponentPart
  deriving DecidableEq, Repr

/-- Scans at least one digit. At the end of the text the fault is the given one. -/
def scanDigits (atEnd : Cause) (t : Text) : Except Fault (Text × Text) :=
  match t.takeWhile Char.isDigit with
  | [] =>
    match t with
    | [] => .error (.atEnd atEnd)
    | r => .error (.peeking .invalidNumber r)
  | digits => .ok (digits, t.dropWhile Char.isDigit)

/-- Scans the digits before the point. Nothing but a point or an exponent follows a leading zero. -/
def scanWhole (atEnd : Cause) (t : Text) : Except Fault (Text × Text) :=
  match t with
  | '0' :: d :: r => if d.isDigit then .error (.peeking .invalidNumber (d :: r)) else .ok (['0'], d :: r)
  | t => scanDigits atEnd t

def scanFraction (atEnd : Cause) (t : Text) : Except Fault (Text × Text) :=
  match t with
  | '.' :: r => scanDigits atEnd r
  | t => .ok ([], t)

def splitSign : Text → Bool × Text
  | '-' :: r => (true, r)
  | '+' :: r => (false, r)
  | t => (false, t)

def scanExponent (atEnd : Cause) (t : Text) : Except Fault (Option ExponentPart × Text) :=
  match t with
  | [] => .ok (none, [])
  | c :: r =>
    if c = 'e' ∨ c = 'E' then do
      let (digits, rest) ← scanDigits atEnd (splitSign r).2
      return (some ⟨(splitSign r).1, digits⟩, rest)
    else .ok (none, c :: r)

def scanUnsigned (atEnd : Cause) (negative : Bool) (t : Text) : Except Fault (Numeral × Text) := do
  let (whole, t) ← scanWhole atEnd t
  let (fraction, t) ← scanFraction atEnd t
  let (exponent, t) ← scanExponent atEnd t
  return (⟨negative, whole, fraction, exponent⟩, t)

def scanNumeral (atEnd : Cause) (t : Text) : Except Fault (Numeral × Text) :=
  match t with
  | '-' :: r => scanUnsigned atEnd true r
  | t => scanUnsigned atEnd false t

/-- The largest significand: that of 64 bits. -/
def maxSignificand : Nat := Nat.pow 2 64 - 1

/-- The largest exponent that can be written: that of 31 bits. -/
def maxExponent : Nat := Nat.pow 2 31 - 1

def digitValue (c : Char) : Nat := c.toNat - '0'.toNat

/-- The value of the first of some digits that stays within a limit when they follow a value, and the
digits after those. -/
def takeDigits (limit value : Nat) : Text → Nat × Text
  | [] => (value, [])
  | d :: r =>
    if limit < 10 * value + digitValue d then (value, d :: r)
    else takeDigits limit (10 * value + digitValue d) r

/-- The significand of a number, the power of ten that goes with it, and whether every digit before
the point fits into it. A digit before the point that does not fit still counts for the power. Of the
digits after the point only those that fit count at all. -/
def significandOf (n : Numeral) : Nat × Int × Bool :=
  let (whole, unused) := takeDigits maxSignificand 0 n.whole
  let (significand, dropped) := takeDigits maxSignificand whole n.fraction
  (significand, (unused.length : Int) - (n.fraction.length - dropped.length), unused.isEmpty)

def powerOfTen? (exponent : Nat) : Option Binary64 := Binary64.ofQuotient? (Nat.pow 10 exponent) 1

/-- The largest power of ten that is a floating point number. -/
def maxPower : Nat := 308

/-- A floating point number times a power of ten, if that is one. Small powers are reached by
dividing by the largest power first. -/
def scale? (x : Binary64) (power : Int) : Option Binary64 :=
  if 0 ≤ power then
    if power.toNat ≤ maxPower then do x.mul? (← powerOfTen? power.toNat)
    else if x.significand = 0 then some x
    else none
  else if (-power).toNat ≤ maxPower then do x.div? (← powerOfTen? (-power).toNat)
  else if x.significand = 0 then some x
  else do
    let y ← x.div? (← powerOfTen? maxPower)
    scale? y (power + maxPower)
termination_by (-power).toNat
decreasing_by
  simp only [maxPower] at *
  omega

/-- The value of an exponent, or how many of its digits are left after the one that is too many. -/
def exponentValue (e : ExponentPart) : Except Nat Int :=
  match takeDigits maxExponent 0 e.digits with
  | (value, []) => .ok (if e.negative then -value else value)
  | (_, _ :: unused) => .error unused.length

/-- The value of a number that stands before the rest of a text. -/
def numberValue (n : Numeral) (rest : Text) : Except Fault Found :=
  let (significand, power, fits) := significandOf n
  let scaled (power : Int) : Except Fault Found :=
    match (Binary64.ofQuotient? significand 1).bind (scale? · power) with
    | some x => .ok (.float n.negative x)
    | none => .error (.before .numberOutOfRange rest)
  match n.exponent with
  | some e =>
    match exponentValue e with
    | .ok value => scaled (power + value)
    | .error unused =>
      if significand = 0 ∨ e.negative then .ok (.float n.negative .zero)
      else .error ⟨.numberOutOfRange, Text.utf8Size rest + unused⟩
  | none =>
    if n.fraction ≠ [] ∨ fits = false then scaled power
    else if n.negative = false then .ok (.integer significand)
    else if 1 ≤ significand ∧ significand ≤ Nat.pow 2 63 then .ok (.integer (-significand))
    else scaled 0

theorem length_lt_of_scanDigits {atEnd : Cause} {t digits rest : Text}
    (h : scanDigits atEnd t = .ok (digits, rest)) : rest.length < t.length := by
  unfold scanDigits at h
  split at h
  · split at h <;> cases h
  · next hne =>
    cases h
    have ha := congrArg List.length (List.takeWhile_append_dropWhile (p := Char.isDigit) (l := t))
    have hp := List.length_pos_iff.2 hne
    rw [List.length_append] at ha
    omega

theorem length_lt_of_scanWhole {atEnd : Cause} {t digits rest : Text}
    (h : scanWhole atEnd t = .ok (digits, rest)) : rest.length < t.length := by
  unfold scanWhole at h
  split at h
  · split at h
    · cases h
    · cases h; simp
  · exact length_lt_of_scanDigits h

theorem length_le_of_scanFraction {atEnd : Cause} {t digits rest : Text}
    (h : scanFraction atEnd t = .ok (digits, rest)) : rest.length ≤ t.length := by
  unfold scanFraction at h
  split at h
  · have hl := length_lt_of_scanDigits h
    simp only [List.length_cons]
    omega
  · cases h; exact Nat.le_refl _

theorem length_splitSign_le (t : Text) : (splitSign t).2.length ≤ t.length := by
  unfold splitSign
  split <;> simp

theorem length_le_of_scanExponent {atEnd : Cause} {t rest : Text} {e : Option ExponentPart}
    (h : scanExponent atEnd t = .ok (e, rest)) : rest.length ≤ t.length := by
  cases t with
  | nil => cases h; exact Nat.le_refl _
  | cons c r =>
    simp only [scanExponent] at h
    split at h
    · cases hd : scanDigits atEnd (splitSign r).2 with
      | error f => rw [hd] at h; cases h
      | ok p =>
        rw [hd] at h
        cases h
        have hl := length_lt_of_scanDigits hd
        have hs := length_splitSign_le r
        simp only [List.length_cons]
        omega
    · cases h; exact Nat.le_refl _

theorem length_lt_of_scanUnsigned {atEnd : Cause} {negative : Bool} {t rest : Text} {n : Numeral}
    (h : scanUnsigned atEnd negative t = .ok (n, rest)) : rest.length < t.length := by
  unfold scanUnsigned at h
  cases hw : scanWhole atEnd t with
  | error f => rw [hw] at h; cases h
  | ok p =>
    rw [hw] at h
    have h1 := length_lt_of_scanWhole hw
    cases hf : scanFraction atEnd p.2 with
    | error f => simp only [bind, Except.bind, hf] at h; cases h
    | ok q =>
      have h2 := length_le_of_scanFraction hf
      cases he : scanExponent atEnd q.2 with
      | error f => simp only [bind, Except.bind, hf, he] at h; cases h
      | ok s =>
        have h3 := length_le_of_scanExponent he
        simp only [bind, Except.bind, hf, he] at h
        cases h
        omega

theorem length_lt_of_scanNumeral {atEnd : Cause} {t rest : Text} {n : Numeral}
    (h : scanNumeral atEnd t = .ok (n, rest)) : rest.length < t.length := by
  unfold scanNumeral at h
  split at h
  · have hl := length_lt_of_scanUnsigned h
    simp only [List.length_cons]
    omega
  · exact length_lt_of_scanUnsigned h

end Json
end TreeDump
