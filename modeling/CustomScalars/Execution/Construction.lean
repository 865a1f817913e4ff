import CustomScalars.Execution.QueryType
import CustomScalars.SchemaText
import CustomScalars.Text.CamelCase

/-!
# Making the schema

Before a request can be answered its schema has to be made. Both ways of making one refuse some
names. A text names each thing once, and the scalar is then bound to the type that the text
declares. In code a field is named as a parameter of a function could be, and answers to that name
in camel case; of two fields of one name the later one counts; and a type is made when the first
field uses it.

A schema that could be made may still be invalid, which is reported to whoever asks it something.
-/
namespace CustomScalars.Execution

open CustomScalars (Definition)
open SchemaText (isPlainName checkReadable checkDistinct)

namespace Request

def fieldNames (request : Request) : List String :=
  request.fields.map Field.name ++ request.echo.toList.map fun _ => echoName

end Request

/-- The name of the type that a text declares for a scalar: a line break ends it. -/
def declaredName (scalar : String) : String :=
  String.ofList (Definition.withoutFinalBreak scalar.toList)

/-- The scalar is looked for by its own name among the declared types. -/
def checkDeclared (definition : Definition) (request : Request) : Except Fault Unit := do
  let names := request.fieldNames
  if names.isEmpty then .error .unreadableSchema
  checkReadable names
  checkDistinct names
  checkDistinct [rootTypeName, declaredName definition.name]
  if declaredName definition.name ≠ definition.name then
    .error (.undeclaredType definition.nameValue)

/-- Names with a meaning of their own in code, which no parameter can have. -/
def keywords : List String :=
  ["False", "None", "True", "and", "as", "assert", "async", "await", "break", "class", "continue",
   "def", "del", "elif", "else", "except", "finally", "for", "from", "global", "if", "import",
   "in", "is", "lambda", "nonlocal", "not", "or", "pass", "raise", "return", "try", "while",
   "with", "yield"]

def checkFieldName (name : String) : Except Fault Unit :=
  if isPlainName name && !keywords.contains name then .ok () else .error (.unusableFieldName name)

/-- A type has a plain name, and a description that is a text if it has one. The query type is there
already and is no type for an argument. -/
def checkCodedScalar (definition : Definition) (request : Request) : Except Fault Unit :=
  if definition.name = rootTypeName then
    if request.echo.isSome then .error (.objectAsInput definition.name) else .ok ()
  else if !isPlainName definition.name then .error (.malformedName definition.name)
  else match definition.engineDescription with
    | .null | .text _ _ => .ok ()
    | other => .error (.notText other.typeName)

def checkExposedName (name : String) : Except Fault Unit :=
  if isPlainName name then .ok () else .error (.malformedName name)

/-- The fields under the names to which they answer. -/
def exposedFields (fields : List Field) : List Field :=
  let named := fields.map fun field => (Text.camelCase field.name, field)
  (Table.putAll [] named).map fun (name, field) => { field with name := name }

/-- The request as its schema sees it, if the schema can be made. -/
def constructed (definition : Definition) (request : Request) : Except Fault Request :=
  match request.style with
  | .declared => do
    checkDeclared definition request
    return request
  | .coded => do
    request.fieldNames.forM checkFieldName
    if request.usesScalar definition.name then checkCodedScalar definition request
    let exposed := { request with fields := exposedFields request.fields }
    exposed.fieldNames.forM checkExposedName
    return exposed

/-- The names under which a text declares the types that answer other requests than queries. -/
def otherRootNames : List String := ["Mutation", "Subscription"]

def notRootType (name : String) : ResponseError :=
  .ofMessage s!"{name} root type must be Object type if provided, it cannot be {name}."

def withoutFields : ResponseError :=
  .ofMessage s!"Type {rootTypeName} must define one or more fields."

def reservedFieldName (name : String) : ResponseError :=
  .ofMessage
    (s!"Name {(Value.ofText name).written} must not begin with '__', which is reserved by " ++
      "GraphQL introspection.")

def beginsReserved (name : String) : Bool := ['_', '_'].isPrefixOf name.toList

/-- What is wrong with a schema that was made. -/
def schemaErrors (definition : Definition) (request : Request) : List ResponseError :=
  let names := request.fieldNames
  (if request.style = .declared && otherRootNames.contains definition.name then
    [notRootType definition.name]
  else []) ++
  (if names.isEmpty then [withoutFields] else []) ++
  (names.filter beginsReserved).map reservedFieldName

end CustomScalars.Execution
