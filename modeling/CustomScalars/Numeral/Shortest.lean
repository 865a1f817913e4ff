import CustomScalars.Numeral.Binary

/-!
# Shortest decimal numbers

A binary fraction is written with the fewest decimal digits that are read back as the same
fraction, and among numbers of that many digits with the one nearest to it. For each number of
digits only the two decimal numbers next to the fraction have to be looked at: if any number of
that many digits is read back, one of these is.
-/
namespace CustomScalars.Numeral

/-- A decimal number, `digits * 10 ^ power`. -/
structure Decimal where
  digits : Nat
  power : Int
  deriving DecidableEq

namespace Ratio

def le (left right : Ratio) : Bool :=
  left.numerator * right.denominator ≤ right.numerator * left.denominator

def lt (left right : Ratio) : Bool :=
  left.numerator * right.denominator < right.numerator * left.denominator

/-- The number of places before the point; zero or negative for a fraction below one, by the zeros
that follow its point. -/
def places (ratio : Ratio) : Int :=
  if ratio.floor = 0 then
    let inverse := (ratio.denominator + ratio.numerator - 1) / ratio.numerator
    1 - (Binary.digitCount (inverse - 1) : Int)
  else Binary.digitCount ratio.floor

/-- The quotient in units of a power of ten. -/
def inPlaces (ratio : Ratio) (power : Int) : Ratio :=
  ⟨ratio.numerator * Nat.pow 10 (-power).toNat, ratio.denominator * Nat.pow 10 power.toNat⟩

end Ratio

/-- The numbers that are read back as a given fraction: all between two bounds, and the bounds too
when halfway cases are decided for this fraction. -/
structure Interval where
  lower : Ratio
  upper : Ratio
  closed : Bool

namespace Interval

/-- Below a power of two the next fraction is only half as far away as above it. -/
def around (number : Binary) : Interval :=
  let narrow := number.mantissa = Nat.pow 2 (Binary.precision - 1) &&
    Binary.leastExponent < number.exponent
  let quarter := number.exponent - 2
  { lower := .ofBinary ⟨4 * number.mantissa - (if narrow then 1 else 2), quarter⟩
    upper := .ofBinary ⟨4 * number.mantissa + 2, quarter⟩
    closed := number.mantissa % 2 = 0 }

def contains (interval : Interval) (ratio : Ratio) : Bool :=
  if interval.closed then interval.lower.le ratio && ratio.le interval.upper
  else interval.lower.lt ratio && ratio.lt interval.upper

end Interval

namespace Decimal

def ratio (decimal : Decimal) : Ratio := .ofDecimal decimal.digits decimal.power

/-- The number of so many digits that is read back, if there is one. -/
def ofWidth? (number : Binary) (width : Nat) : Option Decimal :=
  let value := Ratio.ofBinary number
  let power := value.places - width
  let scaled := value.inPlaces power
  let below := scaled.floor
  let reads (digits : Nat) : Bool :=
    (Interval.around number).contains (Decimal.ratio ⟨digits, power⟩)
  match reads below, reads (below + 1) with
  | true, true => some ⟨scaled.round, power⟩
  | true, false => some ⟨below, power⟩
  | false, true => some ⟨below + 1, power⟩
  | false, false => none

/-- Seventeen digits are always enough. -/
def shortest (number : Binary) : Decimal :=
  ((List.range 17).findSome? fun width => ofWidth? number (width + 1)).getD ⟨0, 0⟩

end Decimal

end CustomScalars.Numeral
