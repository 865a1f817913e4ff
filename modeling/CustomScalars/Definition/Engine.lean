import CustomScalars.Definition.Basic

/-!
# The engine's side of a definition

An engine does not know verdicts: it takes a value or a fault. The functions here hand on what a
definition accepts, turn what it rejects into a fault that names the scalar, and refuse all input
to a scalar that is for output only.
-/
namespace CustomScalars.Definition

def deliver (definition : Definition) : Verdict → Except Fault Value
  | .accepted value => .ok value
  | .rejected kind message => .error (.rejectedValue definition.nameValue kind message)

def engineSerialize (definition : Definition) (value : Value) : Except Fault Value := do
  definition.deliver (← definition.serialize value)

def engineParseValue (definition : Definition) (value : Value) : Except Fault Value :=
  match definition.input with
  | none => .error (.outputOnly definition.nameValue)
  | some input => do definition.deliver (← input.parseValue value)

def engineParseLiteral (definition : Definition) (literal : Literal) (bindings : Value) :
    Except Fault Value :=
  match definition.input with
  | none => .error (.outputOnly definition.nameValue)
  | some input => do definition.deliver (← input.parseLiteral literal bindings)

/-- The contract function itself, which a scalar for output only does not have. -/
def contractParseValue (definition : Definition) (value : Value) : Outcome :=
  match definition.input with
  | none => .error (.notCallable Value.null.typeName)
  | some input => input.parseValue value

def contractParseLiteral (definition : Definition) (literal : Literal) (bindings : Value) :
    Outcome :=
  match definition.input with
  | none => .error (.notCallable Value.null.typeName)
  | some input => input.parseLiteral literal bindings

/-- A scalar type as a schema builder takes it. An empty description is left out. -/
structure EngineType where
  name : String
  description : Value
  documentation : Value
  serialize : Value → Except Fault Value
  parseValue : Value → Except Fault Value
  parseLiteral : Literal → Value → Except Fault Value

def engineDescription (definition : Definition) : Value :=
  if definition.description.truthy then definition.description else .null

def toEngineType (definition : Definition) : EngineType where
  name := definition.name
  description := definition.engineDescription
  documentation := definition.engineDescription
  serialize := definition.engineSerialize
  parseValue := definition.engineParseValue
  parseLiteral := definition.engineParseLiteral

end CustomScalars.Definition
