import CustomScalars.Numeral.Shortest

/-!
# Written fractions

A fraction always shows that it is one: by a point or by an exponent. The point is used for
numbers of at most sixteen places before it and at most three zeros after it; all others have one
digit before the point and an exponent of at least two digits with its sign.
-/
namespace CustomScalars.Numeral

def pointText (digits : List Char) (places : Int) : List Char :=
  if places ≤ 0 then '0' :: '.' :: (List.replicate (-places).toNat '0' ++ digits)
  else
    let whole := digits.take places.toNat
    let fraction := digits.drop places.toNat
    whole ++ List.replicate (places.toNat - digits.length) '0' ++
      '.' :: (if fraction.isEmpty then ['0'] else fraction)

def exponentText (digits : List Char) (places : Int) : List Char :=
  let exponent := places - 1
  let sign := if exponent < 0 then '-' else '+'
  let size := Nat.toDigits 10 exponent.natAbs
  let fraction := digits.drop 1
  digits.take 1 ++ (if fraction.isEmpty then [] else '.' :: fraction) ++
    'e' :: sign :: (List.replicate (2 - size.length) '0' ++ size)

/-- Zeros at the end are left out. -/
def significant (digits : Nat) : List Char :=
  ((Nat.toDigits 10 digits).reverse.dropWhile (· = '0')).reverse

def Decimal.written (decimal : Decimal) : List Char :=
  let places := (Binary.digitCount decimal.digits : Int) + decimal.power
  let digits := significant decimal.digits
  if -4 < places && places ≤ 16 then pointText digits places else exponentText digits places

def Binary.written (number : Binary) : List Char :=
  if number.mantissa = 0 then ['0', '.', '0'] else (Decimal.shortest number).written

end CustomScalars.Numeral
