import CustomScalars.Definition.Engine
import CustomScalars.Execution.TypeRef

/-!
# Requests

A request is made to a schema whose query type has some fields with fixed values, of the type
`String` or of one custom scalar, and perhaps one field that hands its argument back. The argument
is of the scalar type, and is given as a literal, by a variable, or not at all. The schema is made
in one of two ways: its types are declared in a text, or they are put together in code.
-/
namespace CustomScalars.Execution

structure Field where
  name : String
  type : TypeRef
  value : Value

structure Selection where
  key : String
  field : String
  argument : Option Literal

structure VariableDeclaration where
  name : String
  type : TypeRef

inductive SchemaStyle where
  | declared
  | coded
  deriving DecidableEq

structure Request where
  style : SchemaStyle
  fields : List Field
  /-- The argument type of the field that hands its argument back, if the schema has that field. -/
  echo : Option TypeRef
  selections : List Selection
  declarations : List VariableDeclaration
  /-- The values supplied for variables, which have to be a record or nothing. -/
  supplied : Value
  /-- The operation that is asked for by name. -/
  operation : Option String

inductive PathStep where
  | key (name : String)
  | index (position : Nat)
  deriving DecidableEq

abbrev Path := List PathStep

/-- An error that did not arise at a position of the answer has no path. -/
structure ResponseError where
  message : String
  path : Option Path
  extensions : Table Value

namespace ResponseError

def ofMessage (message : String) : ResponseError := ⟨message, none, []⟩

def ofFault (fault : Fault) : ResponseError := ⟨fault.message, none, fault.extensions⟩

def located (path : Path) (error : ResponseError) : ResponseError :=
  { error with path := some path }

/-- A list of errors ends after so many of them, with a notice in the place of the rest. -/
def capped (limit : Nat) (notice : String) (errors : List ResponseError) : List ResponseError :=
  if limit < errors.length then errors.take limit ++ [ofMessage notice] else errors

end ResponseError

/-- What the resolvers were given is listed in the order of their calls. -/
structure Response where
  data : Option (Table Value)
  errors : List ResponseError
  calls : List Value

end CustomScalars.Execution
