import CustomScalars.Definition.Engine

/-!
# Calling a definition

A definition can be called in three places: the contract functions themselves, which answer with a
verdict, the engine's side of it, and the type that was made for a schema builder.
-/
namespace CustomScalars.Definition

inductive Operation where
  | serialize (value : Value)
  | parseValue (value : Value)
  | parseLiteral (literal : Literal) (bindings : Value)

def callContract (definition : Definition) : Operation → Outcome
  | .serialize value => definition.serialize value
  | .parseValue value => definition.contractParseValue value
  | .parseLiteral literal bindings => definition.contractParseLiteral literal bindings

def callEngine (definition : Definition) : Operation → Except Fault Value
  | .serialize value => definition.engineSerialize value
  | .parseValue value => definition.engineParseValue value
  | .parseLiteral literal bindings => definition.engineParseLiteral literal bindings

def EngineType.call (type : EngineType) : Operation → Except Fault Value
  | .serialize value => type.serialize value
  | .parseValue value => type.parseValue value
  | .parseLiteral literal bindings => type.parseLiteral literal bindings

inductive Surface where
  | contract
  | engine
  | engineType

inductive Answer where
  | verdict (verdict : Verdict)
  | value (value : Value)

def call (definition : Definition) (surface : Surface) (operation : Operation) :
    Except Fault Answer :=
  match surface with
  | .contract => (definition.callContract operation).map .verdict
  | .engine => (definition.callEngine operation).map .value
  | .engineType => (definition.toEngineType.call operation).map .value

end CustomScalars.Definition
