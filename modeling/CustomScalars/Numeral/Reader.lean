import CustomScalars.Numeral.Digit
import CustomScalars.Numeral.Printer
import CustomScalars.Text.Blank

/-!
# Reading numerals

Numerals are read leniently: blanks around them do not matter, digits of every script count, and
single underscores may stand between digits. A fraction is read to the nearest binary fraction and
named by its shortest numeral, so two numerals of one number have one name.
-/
namespace CustomScalars.Numeral

/-- A character as it counts in a numeral. -/
def plainChar (char : Char) : Char :=
  if char.toNat < 0x7F then char
  else if Text.isWhitespace char then ' '
  else match digitValue? char with
    | some value => Nat.digitChar value
    | none => '?'

def isEdgeBlank (char : Char) : Bool :=
  char = ' ' || (0x9 ≤ char.toNat && char.toNat ≤ 0xD)

def trimmed (text : List Char) : List Char :=
  ((text.dropWhile isEdgeBlank).reverse.dropWhile isEdgeBlank).reverse

/-- Leave out the underscores, each of which has to stand between two digits. -/
def withoutSeparators (afterDigit : Bool) : List Char → Option (List Char)
  | [] => some []
  | ['_'] => none
  | '_' :: next :: rest =>
    if afterDigit && next.isDigit then (withoutSeparators true rest).map (next :: ·) else none
  | char :: rest => (withoutSeparators char.isDigit rest).map (char :: ·)

/-- Whether there is a minus sign, and what follows the sign. -/
def splitSign : List Char → Bool × List Char
  | '-' :: rest => (true, rest)
  | '+' :: rest => (false, rest)
  | text => (false, text)

def natural? (text : List Char) : Option Nat :=
  if text.isEmpty || !text.all Char.isDigit then none
  else some (text.foldl (fun number char => number * 10 + (char.toNat - '0'.toNat)) 0)

def signed? (text : List Char) : Option Int :=
  let (negative, rest) := splitSign text
  (natural? rest).map fun number => if negative then -(number : Int) else number

/-- Whole numbers of more digits are not read. -/
def greatestLength : Nat := 4300

def body? (text : String) : Option (List Char) :=
  withoutSeparators false (trimmed (text.toList.map plainChar))

def integer? (text : String) : Option Int :=
  (body? text).bind fun body =>
    if greatestLength < (body.filter Char.isDigit).length then none else signed? body

/-- The digits of a decimal number without a sign, and the power of ten that goes with them. -/
def decimal? (text : List Char) : Option Decimal :=
  let isMark (char : Char) : Bool := char = 'e' || char = 'E'
  let (mantissa, tail) := text.span fun char => !isMark char
  let (whole, fraction) := mantissa.span (· ≠ '.')
  let places := fraction.drop 1
  let exponent? := match tail with
    | [] => some 0
    | _ :: exponent => signed? exponent
  match natural? (whole ++ places), exponent? with
  | some digits, some exponent => some ⟨digits, exponent - places.length⟩
  | _, _ => none

def infinityName : String := "inf"

/-- The numeral of what is no number. -/
def notNumberName : String := "nan"

/-- The names of what is not finite, without a sign. -/
def special? (text : List Char) : Option String :=
  let name := String.ofList (text.map Char.toLower)
  if name = "inf" || name = "infinity" then some infinityName
  else if name = "nan" then some notNumberName
  else none

def withSign (negative : Bool) (name : String) : String :=
  if negative && name ≠ notNumberName then "-" ++ name else name

/-- The name of a decimal number. A number that is too great is infinite. -/
def Decimal.name (decimal : Decimal) : String :=
  match Binary.ofDecimal? decimal.digits decimal.power with
  | some number => String.ofList number.written
  | none => infinityName

/-- The name of the number that a numeral stands for. -/
def fraction? (text : String) : Option String :=
  (body? text).bind fun body =>
    let (negative, size) := splitSign body
    ((special? size).orElse fun _ => (decimal? size).map Decimal.name).map (withSign negative)

/-- The number itself, as an integer over a natural number, when it is finite. -/
def quotient? (text : String) : Option (Int × Nat) :=
  (body? text).bind fun body =>
    let (negative, size) := splitSign body
    (decimal? size).bind fun decimal =>
      (Binary.ofDecimal? decimal.digits decimal.power).map fun number =>
        let ratio := Ratio.ofBinary number
        (if negative then -(ratio.numerator : Int) else ratio.numerator, ratio.denominator)

end CustomScalars.Numeral
