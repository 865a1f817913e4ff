import CustomScalars.Definition.Call
import CustomScalars.Library
import CustomScalars.SchemaText

/-!
# Binding definitions onto a schema

A schema declares types by name. A declared scalar starts without functions of its own; binding a
definition of the same name installs all three. The last definition bound to a type wins, but a
description that is already there is kept. Definitions are bound one after another, and those that
come before one that does not fit stay bound.
-/
namespace CustomScalars

/-- The functions are known by the definitions whose engine functions they are. -/
structure ScalarType where
  description : Value
  serialize : Option Issued
  parseValue : Option Issued
  parseLiteral : Option Issued

inductive SchemaType where
  | scalar (type : ScalarType)
  | other (kind : TypeKind)

abbrev Schema := Table SchemaType

structure Declaration where
  name : String
  kind : TypeKind
  description : Value

namespace ScalarType

def declared (description : Value) : ScalarType := ⟨description, none, none, none⟩

def bind (type : ScalarType) (issued : Issued) : ScalarType where
  description :=
    if issued.definition.description.truthy && !type.description.truthy then
      issued.definition.description
    else type.description
  serialize := some issued
  parseValue := some issued
  parseLiteral := some issued

/-- A type without functions hands values on as they are. -/
def callSerialize (type : ScalarType) (value : Value) : Except Fault Value :=
  match type.serialize with
  | some issued => issued.definition.engineSerialize value
  | none => .ok value

def callParseValue (type : ScalarType) (value : Value) : Except Fault Value :=
  match type.parseValue with
  | some issued => issued.definition.engineParseValue value
  | none => .ok value

/-- A type without functions takes a literal for the value that it spells. -/
def callParseLiteral (type : ScalarType) (literal : Literal) (bindings : Value) :
    Except Fault Value :=
  match type.parseLiteral with
  | some issued => issued.definition.engineParseLiteral literal bindings
  | none => literal.plainValue bindings

def call (type : ScalarType) : Definition.Operation → Except Fault Value
  | .serialize value => type.callSerialize value
  | .parseValue value => type.callParseValue value
  | .parseLiteral literal bindings => type.callParseLiteral literal bindings

end ScalarType

namespace SchemaType

def declared (declaration : Declaration) : SchemaType :=
  match declaration.kind with
  | .scalar => .scalar (.declared declaration.description)
  | kind => .other kind

end SchemaType

/-- A schema after definitions were bound: the scalars bound, in order, and what stopped it. -/
structure Bound where
  schema : Schema
  scalars : List String
  fault : Option Fault

namespace Schema

def queryTypeName : String := "Query"

def ofDeclarations (declarations : List Declaration) : Schema :=
  (queryTypeName, .other .object) ::
    declarations.map fun declaration => (declaration.name, .declared declaration)

/-- The schema of a text with these declarations, if the text can be read. -/
def declare (declarations : List Declaration) : Except Fault Schema := do
  let names := queryTypeName :: declarations.map Declaration.name
  SchemaText.checkReadable names
  SchemaText.checkDistinct names
  return ofDeclarations declarations

def bindOne (schema : Schema) (issued : Issued) : Except Fault Schema :=
  match schema.lookup issued.name with
  | none => .error (.undeclaredType issued.definition.nameValue)
  | some (.other kind) => .error (.notScalarType issued.definition.nameValue kind)
  | some (.scalar type) => .ok (schema.put issued.name (.scalar (type.bind issued)))

def bindAll (schema : Schema) : List Issued → Bound
  | [] => ⟨schema, [], none⟩
  | issued :: rest =>
    match schema.bindOne issued with
    | .error fault => ⟨schema, [], some fault⟩
    | .ok next =>
      let bound := bindAll next rest
      { bound with scalars := issued.name :: bound.scalars }

def scalarType? (schema : Schema) (name : String) : Option ScalarType :=
  match schema.lookup name with
  | some (.scalar type) => some type
  | _ => none

/-- The declared scalar types, ordered by name. -/
def scalarTypes (schema : Schema) : Table ScalarType :=
  (Text.orderedSet schema.names).filterMap fun name =>
    (schema.scalarType? name).map fun type => (name, type)

/-- Bind definitions and report each one that was bound. -/
def bindScalars (schema : Schema) (definitions : List Issued) : Action Bound := do
  let bound := schema.bindAll definitions
  modify fun library =>
    { library with events := library.events ++ bound.scalars.map .bound }
  return bound

end Schema

end CustomScalars
