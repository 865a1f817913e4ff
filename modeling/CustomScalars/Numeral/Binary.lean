/-!
# Binary fractions

A number is kept as a mantissa of at most 53 bits and a power of two. A decimal number stands for
the binary fraction that is nearest to it, and halfway between two of them for the one whose
mantissa is even.
-/
namespace CustomScalars.Numeral

/-- The number `mantissa * 2 ^ exponent`. -/
structure Binary where
  mantissa : Nat
  exponent : Int
  deriving DecidableEq

/-- A positive quotient of two natural numbers. -/
structure Ratio where
  numerator : Nat
  denominator : Nat

namespace Ratio

/-- The number `digits * 10 ^ power`. -/
def ofDecimal (digits : Nat) (power : Int) : Ratio :=
  ⟨digits * Nat.pow 10 power.toNat, Nat.pow 10 (-power).toNat⟩

def ofBinary (number : Binary) : Ratio :=
  ⟨number.mantissa * Nat.pow 2 number.exponent.toNat, Nat.pow 2 (-number.exponent).toNat⟩

/-- The quotient in units of a power of two. -/
def inUnits (ratio : Ratio) (exponent : Int) : Ratio :=
  ⟨ratio.numerator * Nat.pow 2 (-exponent).toNat, ratio.denominator * Nat.pow 2 exponent.toNat⟩

def floor (ratio : Ratio) : Nat := ratio.numerator / ratio.denominator

/-- The nearest natural number, of two equally near ones the even one. -/
def round (ratio : Ratio) : Nat :=
  let below := ratio.floor
  let twice := 2 * (ratio.numerator % ratio.denominator)
  if twice < ratio.denominator then below
  else if ratio.denominator < twice then below + 1
  else below + below % 2

end Ratio

namespace Binary

def zero : Binary := ⟨0, 0⟩

def precision : Nat := 53

def leastExponent : Int := -1074

def greatestExponent : Int := 971

/-- The power of two in whose units the quotient has as many bits as a mantissa may have. -/
def exponentFor (ratio : Ratio) : Int :=
  let guess : Int := (ratio.numerator.log2 : Int) - ratio.denominator.log2 - precision
  max leastExponent
    (if (ratio.inUnits guess).floor < Nat.pow 2 precision then guess else guess + 1)

/-- The nearest binary fraction; `none` when it would be beyond the greatest one. -/
def nearest? (ratio : Ratio) : Option Binary :=
  let exponent := exponentFor ratio
  let mantissa := (ratio.inUnits exponent).round
  let number : Binary :=
    if mantissa = Nat.pow 2 precision then ⟨Nat.pow 2 (precision - 1), exponent + 1⟩
    else ⟨mantissa, exponent⟩
  if greatestExponent < number.exponent then none else some number

/-- How many decimal digits a natural number has; none for zero. -/
def digitCount (number : Nat) : Nat := if number = 0 then 0 else (Nat.toDigits 10 number).length

/-- The binary fraction nearest to `digits * 10 ^ power`. A number of more than 310 places is
beyond every fraction, and one below the 330th place is nearest to zero. -/
def ofDecimal? (digits : Nat) (power : Int) : Option Binary :=
  let places := digitCount digits + power
  if digits = 0 || places < -330 then some zero
  else if 310 < places then none
  else nearest? (.ofDecimal digits power)

end Binary

end CustomScalars.Numeral
