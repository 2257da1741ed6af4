/-! Floating point numbers of 64 bits, by exact arithmetic on natural numbers: a quotient is rounded
to the nearest one, and a tie to the even significand. Signs are kept apart. -/
namespace TreeDump

/-- A finite number that is not negative: the significand times two to the exponent. -/
structure Binary64 where
  significand : Nat
  exponent : Int
  deriving DecidableEq, Repr

namespace Binary64

def precision : Nat := 53

/-- The least exponent, that of the subnormal numbers. -/
def minExponent : Int := -1074

/-- The exponent of the largest numbers. -/
def maxExponent : Int := 971

def zero : Binary64 := ⟨0, 0⟩

/-- A quotient rounded to the nearest natural number, a tie to the even one. -/
def roundQuotient (numerator denominator : Nat) : Nat :=
  let quotient := numerator / denominator
  let twice := 2 * (numerator % denominator)
  if denominator < twice ∨ (twice = denominator ∧ quotient % 2 = 1) then quotient + 1
  else quotient

def scaleQuotient (numerator denominator : Nat) (exponent : Int) : Nat × Nat :=
  (numerator * Nat.pow 2 (-exponent).toNat, denominator * Nat.pow 2 exponent.toNat)

/-- The exponent at which a quotient that is not zero has a significand of full precision, or the
least exponent. -/
def exponentOf (numerator denominator : Nat) : Int :=
  let high : Int := numerator.log2 - denominator.log2 - (precision - 1)
  let (n, d) := scaleQuotient numerator denominator high
  max minExponent (if Nat.pow 2 (precision - 1) ≤ n / d then high else high - 1)

/-- The number nearest to a quotient, unless it is too large for any. -/
def ofQuotient? (numerator denominator : Nat) : Option Binary64 :=
  if numerator = 0 then some zero
  else
    let exponent := exponentOf numerator denominator
    let (n, d) := scaleQuotient numerator denominator exponent
    let rounded := roundQuotient n d
    let found : Binary64 :=
      if rounded = Nat.pow 2 precision then ⟨Nat.pow 2 (precision - 1), exponent + 1⟩
      else ⟨rounded, exponent⟩
    if maxExponent < found.exponent then none else some found

def toQuotient (x : Binary64) : Nat × Nat := scaleQuotient x.significand 1 (-x.exponent)

def mul? (x y : Binary64) : Option Binary64 :=
  ofQuotient? (x.toQuotient.1 * y.toQuotient.1) (x.toQuotient.2 * y.toQuotient.2)

def div? (x y : Binary64) : Option Binary64 :=
  ofQuotient? (x.toQuotient.1 * y.toQuotient.2) (x.toQuotient.2 * y.toQuotient.1)

end Binary64
end TreeDump
