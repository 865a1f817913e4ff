import CustomScalars.Numeral.Reader
import CustomScalars.Verdict

/-!
# Literals

A literal is a value as it stands in a query. Its kinds form a closed set; anything else that may
be given in its place, another part of a query or a value that is no part of one, is named for
what it is.
-/
namespace CustomScalars

inductive Literal where
  | text (content : Value)
  | int (numeral : String)
  | float (numeral : String)
  | boolean (flag : Bool)
  | null
  | enumeration (name : String)
  | list (items : List Literal)
  | object (fields : List (String × Literal))
  | variableRef (name : String)
  | otherNode (nodeName : String)
  | bare (value : Value)

namespace Literal

/-- A text literal. The parts of a query do not change, so a list in the place of its text is kept
as a tuple. -/
def ofContent : Value → Literal
  | .list _ items => .text (.tuple items)
  | content => .text content

def kindName : Literal → String
  | .text _ => "string"
  | .int _ => "int"
  | .float _ => "float"
  | .boolean _ => "boolean"
  | .null => "null"
  | .enumeration _ => "enum"
  | .list _ => "list"
  | .object _ => "object"
  | .variableRef _ => "variable"
  | .otherNode nodeName => nodeName
  | .bare value => value.typeName

end Literal

/-- The value bound to a variable; undefined when nothing is bound to it or there are no bindings.
-/
def boundValue (bindings : Value) (name : String) : Except Fault Value :=
  if bindings.truthy then
    match bindings.record? with
    | some entries => .ok (((Value.named entries).lookup name).getD .undefined)
    | none => .error (.notRecord bindings.typeName)
  else .ok .undefined

namespace Literal

/-- The number that a numeral of a whole number spells, if any. -/
def wholeValue (numeral : String) : Value :=
  match Numeral.integer? numeral with
  | some number => .int none number
  | none => .float none Numeral.notNumberName

def fractionValue (numeral : String) : Value :=
  .float none ((Numeral.fraction? numeral).getD Numeral.notNumberName)

mutual

/-- The value that a literal spells when no scalar has a say in it. Of two fields of one name the
later one counts. -/
def plainValue (bindings : Value) : Literal → Except Fault Value
  | .text content => .ok content
  | .int numeral => .ok (wholeValue numeral)
  | .float numeral => .ok (fractionValue numeral)
  | .boolean flag => .ok (.bool flag)
  | .null => .ok .null
  | .enumeration name => .ok (.ofText name)
  | .list items => (plainValues bindings items).map (.list none)
  | .object fields =>
    (plainEntries bindings fields).map fun entries => .ofEntries (Table.putAll [] entries)
  | .variableRef name => boundValue bindings name
  | .otherNode nodeName => .error (.notCallable nodeName)
  | .bare value => .error (.notLiteral value.typeName)

def plainValues (bindings : Value) : List Literal → Except Fault (List Value)
  | [] => .ok []
  | item :: rest => do
    let value ← plainValue bindings item
    let values ← plainValues bindings rest
    return value :: values

def plainEntries (bindings : Value) :
    List (String × Literal) → Except Fault (List (String × Value))
  | [] => .ok []
  | (name, field) :: rest => do
    let value ← plainValue bindings field
    let entries ← plainEntries bindings rest
    return (name, value) :: entries

end

end Literal

/-- Parse the literals of a scalar that is written as text. A text literal, and the value bound to
a variable, are checked like any supplied value; a literal of any other kind is never converted. -/
def parseTextLiteral (parseValue : Value → Outcome) (typeName : Value) (bindings : Value) :
    Literal → Outcome
  | .variableRef name => do
    let value ← boundValue bindings name
    if value.isUndefined then
      rejectAs typeName .unsupportedLiteralKind fun type =>
        s!"Variable '${name}' is not bound, cannot parse as {type}"
    else parseValue value
  | .text content => parseValue content
  | literal =>
    rejectAs typeName .unsupportedLiteralKind fun type =>
      s!"Cannot parse {literal.kindName} literal as {type}"

end CustomScalars
