import CustomScalars.Numeral.Reader
import CustomScalars.Value.Basic

/-!
# Equal members of sets

A set holds each member once. Members count as equal by what they say and not by how they say it:
a number is the same number as a whole one, as a fraction or as a truth value, and a brand makes no
difference. What is no number is equal to nothing, not even to itself. Of equal members the first
one is kept.
-/
namespace CustomScalars.Value

/-- A whole number and the number that a numeral stands for. -/
def sameNumber (number : Int) (numeral : String) : Bool :=
  match Numeral.quotient? numeral with
  | some (numerator, denominator) => numerator == number * denominator
  | none => false

def sameNumerals (left right : String) : Bool :=
  left != Numeral.notNumberName &&
    (left == right || (sameNumber 0 left && sameNumber 0 right))

/-- Truth values are the numbers one and zero. -/
def wholeNumber? : Value → Option Int
  | .bool flag => some (if flag then 1 else 0)
  | .int _ number => some number
  | _ => none

mutual

def same : Value → Value → Bool
  | .null, .null => true
  | .text _ left, .text _ right => left == right
  | .bytes left, .bytes right => left == right
  | .float _ left, .float _ right => sameNumerals left right
  | .float _ numeral, other => other.wholeNumber?.any fun number => sameNumber number numeral
  | .bool flag, .float _ numeral => sameNumber (if flag then 1 else 0) numeral
  | .bool flag, other => other.wholeNumber? == some (if flag then 1 else 0)
  | .int _ number, .float _ numeral => sameNumber number numeral
  | .int _ number, other => other.wholeNumber? == some number
  | .tuple left, .tuple right => sameItems left right
  | .frozenset left, .frozenset right => left.length == right.length && areAmong right left
  | .foreign left, .foreign right => left == right
  | .stream left _ items, .stream right _ others => left == right && sameItems items others
  | _, _ => false

def sameItems : List Value → List Value → Bool
  | [], [] => true
  | left :: rest, right :: others => left.same right && sameItems rest others
  | _, _ => false

def areAmong (members : List Value) : List Value → Bool
  | [] => true
  | value :: rest => members.any (fun member => value.same member) && areAmong members rest

end

/-- The members of a set, in the order in which they first came. -/
def distinct : List Value → List Value
  | [] => []
  | value :: rest => value :: (distinct rest).filter fun other => !value.same other

end CustomScalars.Value
