import CustomScalars.Image.Rule
import CustomScalars.Literal

/-!
# Scalar definitions

A definition joins the name of a scalar type to the functions that check its values: one for
values that leave the server, and a pair for values that come in, as data and as literals. The
pair is given whole or not at all; a scalar without it is for output only. `Definition.ofDraft`
checks what a caller offers; the functions themselves are the caller's own.
-/
namespace CustomScalars

/-- A function offered to a definition, by what it answers to a value alone and to a literal with
variable bindings. A function that takes only one of these faults on the other. -/
structure Callable where
  onValue : Value → Outcome
  onLiteral : Literal → Value → Outcome
  rule : Option Image.Rule

namespace Callable

def ofValueFunction (answer : Value → Outcome) : Callable :=
  ⟨answer, fun _ _ => .error .wrongArguments, none⟩

/-- A literal function called on a value alone takes it for a literal without bindings. -/
def ofLiteralFunction (answer : Literal → Value → Outcome) : Callable :=
  ⟨fun value => answer (.bare value) .null, answer, none⟩

def ofRule (rule : Image.Rule) : Callable := { ofValueFunction rule.check with rule := some rule }

def constant (outcome : Outcome) : Callable := ⟨fun _ => outcome, fun _ _ => outcome, none⟩

/-- A function that takes no arguments at all. -/
def withoutArguments : Callable := constant (.error .wrongArguments)

end Callable

/-- What stands in the place of a function: nothing, a function, or a value that is none. -/
inductive Slot where
  | absent
  | callable (function : Callable)
  | plain (value : Value)

namespace Slot

def isAbsent : Slot → Bool
  | .absent => true
  | _ => false

def callableTypeNames : List String := ["function", "type"]

def ofValue : Value → Slot
  | .null => .absent
  | .foreign typeName =>
    if callableTypeNames.contains typeName then .callable .withoutArguments
    else .plain (.foreign typeName)
  | value => .plain value

end Slot

structure InputFunctions where
  parseValue : Value → Outcome
  parseLiteral : Literal → Value → Outcome

structure Definition where
  name : String
  brand : Option String
  description : Value
  serialize : Value → Outcome
  rule : Option Image.Rule
  input : Option InputFunctions

/-- A definition as it is asked for, nothing checked. -/
structure Draft where
  name : Option Value
  description : Value
  serialize : Slot
  parseValue : Slot
  parseLiteral : Slot

namespace Definition

def builtinNames : List String := ["Boolean", "Float", "ID", "Int", "String"]

def isNameStart (char : Char) : Bool := char.isAlpha || char == '_'

def isNamePart (char : Char) : Bool := char.isAlphanum || char == '_'

/-- One line break at the very end is not looked at. -/
def withoutFinalBreak (text : List Char) : List Char :=
  if text.getLast? = some '\n' then text.dropLast else text

def isName (text : List Char) : Bool :=
  match withoutFinalBreak text with
  | [] => false
  | first :: rest => isNameStart first && rest.all isNamePart

def isReserved (name : String) : Bool :=
  builtinNames.contains name || ['_', '_'].isPrefixOf name.toList

/-- The name as it was given, brand included. -/
def nameValue (definition : Definition) : Value := .text definition.brand definition.name

def acceptsInput (definition : Definition) : Bool := definition.input.isSome

def checkName : Value → Except Fault (Option String × String)
  | .text brand name =>
    if isName name.toList then
      if isReserved name then .error (.reservedName (.text brand name)) else .ok (brand, name)
    else .error (.invalidName (.text brand name))
  | value => .error (Fault.invalidName value).told

def checkSerialize (name : Value) : Slot → Except Fault Callable
  | .callable function => .ok function
  | _ => .error (.missingSerialize name)

/-- That one function of the pair is missing is noticed before what the other one is. -/
def checkInput (name : Value) : Slot → Slot → Except Fault (Option InputFunctions)
  | .absent, .absent => .ok none
  | .callable parseValue, .callable parseLiteral =>
    .ok (some ⟨parseValue.onValue, parseLiteral.onLiteral⟩)
  | parseValue, parseLiteral =>
    if parseValue.isAbsent || parseLiteral.isAbsent then .error (.unpairedInput name)
    else .error (.uncallableInput name)

def ofDraft (draft : Draft) : Except Fault Definition := do
  match draft.name with
  | none => .error .missingName
  | some given =>
    let (brand, name) ← checkName given
    let serialize ← checkSerialize given draft.serialize
    let input ← checkInput given draft.parseValue draft.parseLiteral
    return ⟨name, brand, draft.description, serialize.onValue, serialize.rule, input⟩

end Definition

end CustomScalars
