import CustomScalars.Text.Abbreviated
import CustomScalars.Value.Printer

/-!
# Summaries of values

An error names the value that it is about by a summary: the written form, with long texts and long
collections abbreviated and with collections inside two others reduced to their brackets. A
foreign value is named by its type.
-/
namespace CustomScalars.Value

/-- How many collections around a collection are shown with their parts. -/
def greatestDepth : Nat := 2

/-- A collection as its parts are put together. One that is too deep inside others shows none. -/
def summaryOf (depth : Nat) (reduced : String) (compose : List String → String)
    (parts : List String) : String :=
  if parts.isEmpty then compose []
  else if greatestDepth ≤ depth then reduced
  else compose (Text.abbreviatedParts parts)

/-- Types whose values are named alone. -/
def bareTypeNames : List String := ["function", "generator"]

def summaryForeign (typeName : String) : String :=
  if typeName = undefinedTypeName then "Undefined"
  else if bareTypeNames.contains typeName then s!"<{typeName}>"
  else s!"<{typeName} instance>"

mutual

/-- The summary of a value inside so many collections. -/
def summaryAt (depth : Nat) : Value → String
  | .null => "None"
  | .bool flag => Value.written (.bool flag)
  | .float _ numeral => numeral
  | .int _ number => Text.abbreviated (toString number)
  | .text _ content => Text.abbreviated (quotedText content)
  | .bytes octets => Text.abbreviated (Value.written (.bytes octets))
  | .list _ items => summaryOf depth "[...]" (bracketed "[" · "]") (summaryItems depth items)
  | .tuple items => summaryOf depth "(...)" writtenTuple (summaryItems depth items)
  | .set items => summaryOf depth "set(...)" writtenSet (summaryItems depth items)
  | .frozenset items =>
    summaryOf depth "frozenset(...)" writtenFrozenset (summaryItems depth items)
  | .record _ entries =>
    summaryOf depth "\x7b...\x7d" (bracketed "\x7b" · "\x7d") (summaryEntries depth entries)
  | .foreign typeName | .stream typeName _ _ => summaryForeign typeName

def summaryItems (depth : Nat) : List Value → List String
  | [] => []
  | item :: rest => item.summaryAt (depth + 1) :: summaryItems depth rest

def summaryEntries (depth : Nat) : List (Value × Value) → List String
  | [] => []
  | (key, value) :: rest =>
    (key.summaryAt (depth + 1) ++ ": " ++ value.summaryAt (depth + 1)) ::
      summaryEntries depth rest

end

def summary (value : Value) : String := value.summaryAt 0

end CustomScalars.Value
