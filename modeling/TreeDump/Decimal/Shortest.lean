import TreeDump.Decimal.Binary64
import TreeDump.Text.Basic

/-! The shortest decimal of a floating point number: the fewest digits that read back as the number,
and of those the nearest to it. -/
namespace TreeDump

/-- The digits of a decimal without zeros at either end, and where the point stands: the value is
zero, point, the digits, times ten to the power `point`. -/
structure Decimal where
  digits : Text
  point : Int
  deriving DecidableEq, Repr

namespace Decimal

/-- The exponent of the leading decimal digit of a quotient that is not zero. -/
def leadingExponent (numerator denominator : Nat) : Int :=
  if denominator ≤ numerator then
    ((Text.decimal (numerator / denominator)).length : Int) - 1
  else
    let places := (Text.decimal (denominator / numerator)).length
    if numerator * Nat.pow 10 (places - 1) = denominator then 1 - (places : Int) else -(places : Int)

def scaleQuotient (numerator denominator : Nat) (exponent : Int) : Nat × Nat :=
  (numerator * Nat.pow 10 (-exponent).toNat, denominator * Nat.pow 10 exponent.toNat)

/-- The quotients that round to a number, as multiples of a quarter of its last place. The ends
themselves round to it if its significand is even. -/
structure Interval where
  low : Nat
  value : Nat
  high : Nat
  closed : Bool

/-- Below a power of two the numbers stand closer together. -/
def intervalOf (x : Binary64) : Interval :=
  let value := 4 * x.significand
  let atStep :=
    x.significand = Nat.pow 2 (Binary64.precision - 1) ∧ Binary64.minExponent < x.exponent
  ⟨if atStep then value - 1 else value - 2, value, value + 2, x.significand % 2 = 0⟩

/-- Whether a multiple of the same unit lies in an interval, where `n / d` is the multiple. -/
def Interval.holds (i : Interval) (n d : Nat) : Bool :=
  if i.closed then i.low * d ≤ n && n ≤ i.high * d else i.low * d < n && n < i.high * d

/-- The multiple of ten to the exponent that reads back as the number, if one does: of the two next
to it the nearer, and of two as near the even one. -/
def onGrid? (x : Binary64) (exponent : Int) : Option Nat :=
  let i := intervalOf x
  -- the grid's step in quarters of the last place
  let unit := Binary64.toQuotient ⟨1, x.exponent - 2⟩
  let (n, d) := scaleQuotient unit.1 unit.2 exponent
  let below := i.value * n / d
  let above := below + 1
  match i.holds (below * d) n, i.holds (above * d) n with
  | true, true =>
    let toBelow := i.value * n - below * d
    let toAbove := above * d - i.value * n
    if toBelow < toAbove ∨ (toBelow = toAbove ∧ below % 2 = 0) then some below else some above
  | true, false => some below
  | false, true => some above
  | false, false => none

def maxDigits : Nat := 17

def ofMultiple (multiple : Nat) (exponent : Int) : Decimal :=
  let digits := Text.decimal multiple
  ⟨(digits.reverse.dropWhile (· == '0')).reverse, exponent + digits.length⟩

def shortest (x : Binary64) : Decimal :=
  let leading := leadingExponent x.toQuotient.1 x.toQuotient.2
  let found := (List.range maxDigits).findSome? fun (more : Nat) =>
    let exponent := leading - more
    (onGrid? x exponent).map (ofMultiple · exponent)
  found.getD ⟨[], 0⟩

/-- Where decimals are written without an exponent, by the place of their point. -/
structure Layout where
  /-- The point must stand after this place. -/
  leastPoint : Int
  /-- The point must stand at this place or before it. -/
  mostPoint : Int
  deriving DecidableEq, Repr

def zeros (n : Nat) : Text := List.replicate n '0'

/-- A decimal in positional form, always with a point and a digit on either side of it. -/
def positional (d : Decimal) : Text :=
  if d.point ≤ 0 then '0' :: '.' :: (zeros (-d.point).toNat ++ d.digits)
  else
    let places := d.point.toNat
    if d.digits.length ≤ places then d.digits ++ zeros (places - d.digits.length) ++ ['.', '0']
    else d.digits.take places ++ '.' :: d.digits.drop places

/-- A decimal with one digit in front of the point, and a signed exponent. -/
def scientific (d : Decimal) : Text :=
  let mantissa := match d.digits with
    | first :: second :: more => first :: '.' :: second :: more
    | digits => digits
  let exponent := d.point - 1
  mantissa ++ 'e' :: ((if exponent < 0 then [] else ['+']) ++ Text.signedDecimal exponent)

def render (layout : Layout) (d : Decimal) : Text :=
  if layout.leastPoint < d.point ∧ d.point ≤ layout.mostPoint then d.positional else d.scientific

end Decimal
end TreeDump
