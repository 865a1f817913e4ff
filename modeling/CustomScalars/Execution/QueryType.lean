import CustomScalars.Execution.Request
import CustomScalars.TypeKind

/-!
# The query type

The schema of a request has a query type, the custom scalar, two built-in scalars and the types by
which a schema describes itself. The query type has the request's fields and three that every query
type has.
-/
namespace CustomScalars.Execution

def rootTypeName : String := "Query"

def stringTypeName : String := "String"

def booleanTypeName : String := "Boolean"

/-- The field that hands its argument back. -/
def echoName : String := "echo"

/-- The one parameter of that field. -/
def imageParameter : String := "image"

/-- The types that every schema has. -/
def commonTypes : Table TypeKind :=
  [(stringTypeName, .scalar), (booleanTypeName, .scalar), ("__Schema", .object),
   ("__Type", .object), ("__TypeKind", .enumeration), ("__Field", .object),
   ("__InputValue", .object), ("__EnumValue", .object), ("__Directive", .object),
   ("__DirectiveLocation", .enumeration)]

/-- The values of the enumerations among them. -/
def enumerationValues : Table (List String) :=
  [("__TypeKind",
    ["SCALAR", "OBJECT", "INTERFACE", "UNION", "ENUM", "INPUT_OBJECT", "LIST", "NON_NULL"]),
   ("__DirectiveLocation",
    ["QUERY", "MUTATION", "SUBSCRIPTION", "FIELD", "FRAGMENT_DEFINITION", "FRAGMENT_SPREAD",
     "INLINE_FRAGMENT", "VARIABLE_DEFINITION", "SCHEMA", "SCALAR", "OBJECT", "FIELD_DEFINITION",
     "ARGUMENT_DEFINITION", "INTERFACE", "UNION", "ENUM", "ENUM_VALUE", "INPUT_OBJECT",
     "INPUT_FIELD_DEFINITION", "DIRECTIVE_DEFINITION"])]

/-- Whether values of such types can be supplied. -/
def isInputKind : TypeKind → Bool
  | .scalar | .enumeration | .inputObject => true
  | .object | .interface | .union => false

/-- Whether values of such types have fields to select. -/
def isCompositeKind : TypeKind → Bool
  | .object | .interface | .union => true
  | .scalar | .enumeration | .inputObject => false

structure Signature where
  type : TypeRef
  parameters : Table TypeRef

def typeNameField : String := "__typename"

/-- The fields that every query type has beside its own. -/
def commonFields : Table Signature :=
  [(typeNameField, ⟨.nonNull (.named stringTypeName), []⟩),
   ("__schema", ⟨.nonNull (.named "__Schema"), []⟩),
   ("__type", ⟨.named "__Type", [("name", .nonNull (.named stringTypeName))]⟩)]

namespace Request

/-- Whether a field of the query type, or its argument, is of the scalar type. -/
def usesScalar (request : Request) (scalar : String) : Bool :=
  request.echo.isSome || request.fields.any fun field => field.type.innermost == scalar

/-- The types of the schema by name. A scalar that is declared is among them even when no field is
of its type. -/
def types (request : Request) (scalar : String) : Table TypeKind :=
  (rootTypeName, .object) ::
    (if request.style = .declared || request.usesScalar scalar then [(scalar, .scalar)] else []) ++
    commonTypes

/-- The query type's own fields. -/
def ownFields (request : Request) : Table Signature :=
  (request.echo.toList.map fun type =>
    (echoName, ⟨.named stringTypeName, [(imageParameter, type)]⟩)) ++
    request.fields.map fun field => (field.name, ⟨field.type, []⟩)

def signature? (request : Request) (field : String) : Option Signature :=
  (commonFields.lookup field).orElse fun _ => request.ownFields.lookup field

/-- The type expected of the argument of a selection, when the field has that parameter. -/
def argumentType? (request : Request) (selection : Selection) : Option TypeRef :=
  (request.signature? selection.field).bind fun signature =>
    signature.parameters.lookup imageParameter

end Request

end CustomScalars.Execution
