import CustomScalars.Execution.Completion
import CustomScalars.Execution.Construction
import CustomScalars.Execution.Input

/-!
# Answering requests

The schema is made, a request is validated, its variables are prepared, and its fields are run in
the order in which they are selected. A field that may not be null and is takes the whole answer
with it, and the fields after it are not run.
-/
namespace CustomScalars.Execution

open CustomScalars (Definition)

/-- What the field that hands its argument back says when it is given none. -/
def absentArgument : Value := .ofText "<absent>"

def requiredArgument (type : TypeRef) : ResponseError :=
  .ofMessage s!"Argument '{imageParameter}' of required type '{type.written}' was not provided."

def unboundArgument (type : TypeRef) (name : String) : ResponseError :=
  .ofMessage
    (s!"Argument '{imageParameter}' of required type '{type.written}' was provided the " ++
      s!"variable '${name}' which was not provided a runtime value.")

def nullArgument (type : TypeRef) : ResponseError :=
  .ofMessage s!"Argument '{imageParameter}' of non-null type '{type.written}' must not be null."

def invalidArgument (literal : Literal) : ResponseError :=
  .ofMessage s!"Argument '{imageParameter}' has invalid value {literal.written}."

/-- An argument that is not there is an error only where one is required. -/
def absentUnless (type : TypeRef) (error : ResponseError) : Except ResponseError (Option Value) :=
  if type.isNonNull then .error error else .ok none

def nullUnless (type : TypeRef) : Except ResponseError (Option Value) :=
  if type.isNonNull then .error (nullArgument type) else .ok (some .null)

/-- The argument as the resolver gets it; `none` when there is none. -/
def argumentValue (definition : Definition) (type : TypeRef) (bindings : Table Value) :
    Option Literal → Except ResponseError (Option Value)
  | none => absentUnless type (requiredArgument type)
  | some (.variableRef name) =>
    match bindings.lookup name with
    | none => absentUnless type (unboundArgument type name)
    | some .null => nullUnless type
    | some value => .ok (some value)
  | some .null => nullUnless type
  | some literal =>
    match definition.engineParseLiteral literal (.ofEntries bindings) with
    | .ok value => if value.isUndefined then .error (invalidArgument literal) else .ok (some value)
    | .error _ => .error (invalidArgument literal)

/-- A completed field and the argument its resolver was called with, if it was. -/
structure FieldOutcome where
  completion : Completion
  nullable : Bool
  calls : List Value

def runEcho (definition : Definition) (type : TypeRef) (bindings : Table Value)
    (selection : Selection) : FieldOutcome :=
  let path := [.key selection.key]
  match argumentValue definition type bindings selection.argument with
  | .error error => ⟨.failed (error.located path), true, []⟩
  | .ok argument =>
    let received := argument.getD absentArgument
    ⟨complete definition selection.field (.named stringTypeName) path received, true, [received]⟩

/-- A field with a fixed value. -/
def runFixed (definition : Definition) (selection : Selection) (type : TypeRef) (value : Value) :
    FieldOutcome :=
  ⟨complete definition selection.field type [.key selection.key] value, !type.isNonNull, []⟩

def runField (definition : Definition) (request : Request) (bindings : Table Value)
    (selection : Selection) : FieldOutcome :=
  if selection.field = typeNameField then
    runFixed definition selection (.nonNull (.named stringTypeName)) (.ofText rootTypeName)
  else match request.echo, selection.field == echoName with
    | some type, true => runEcho definition type bindings selection
    | _, _ =>
      match request.fields.find? fun field => field.name == selection.field with
      | none => ⟨.done .null, true, []⟩
      | some field => runFixed definition selection field.type field.value

/-- The errors and calls of what ran are kept in front of those of what runs after it. -/
def Response.after (errors : List ResponseError) (calls : List Value) (response : Response) :
    Response :=
  ⟨response.data, errors ++ response.errors, calls ++ response.calls⟩

def runFields (definition : Definition) (request : Request) (bindings : Table Value) :
    List Selection → Response
  | [] => ⟨some [], [], []⟩
  | selection :: rest =>
    let outcome := runField definition request bindings selection
    let completion := outcome.completion.settle outcome.nullable
    match completion.result with
    | .error error => ⟨none, completion.errors ++ [error], outcome.calls⟩
    | .ok value =>
      let later := runFields definition request bindings rest
      Response.after completion.errors outcome.calls
        { later with data := later.data.map fun entries => (selection.key, value) :: entries }

/-- An answer without data. -/
def Response.refused (errors : List ResponseError) : Response := ⟨none, errors, []⟩

/-- Between the braces of a request something has to be selected. -/
def nothingSelected : ResponseError := .ofMessage "Syntax Error: Expected Name, found '\x7d'."

/-- The keys of an answer are read from the text of the request, as names. -/
def unreadableKey (key : String) : ResponseError :=
  .ofMessage s!"Syntax Error: Expected Name, found {Value.quotedText key}."

def unknownOperation (name : String) : ResponseError :=
  .ofMessage s!"Unknown operation named '{name}'."

/-- Run a valid request. -/
def run (definition : Definition) (request : Request) (supplied : Table Value) : Response :=
  match request.operation.filter (· ≠ operationName) with
  | some other => .refused [unknownOperation other]
  | none =>
    match coerceVariables definition request.declarations supplied with
    | (bindings, []) => runFields definition request bindings (merged request.selections)
    | (_, errors) => .refused errors

/-- What keeps the text of a request from being read. Only the first such thing is reported. -/
def syntaxErrors (request : Request) : List ResponseError :=
  if request.selections.isEmpty then [nothingSelected]
  else match request.selections.find? fun selection => !SchemaText.isPlainName selection.key with
    | some selection => [unreadableKey selection.key]
    | none => []

/-- Answer a request whose schema was made. -/
def answer (definition : Definition) (request : Request) : Except Fault Response :=
  match schemaErrors definition request with
  | [] =>
    match syntaxErrors request with
    | [] =>
      match validate definition request with
      | [] => (suppliedEntries request.supplied).map (run definition request)
      | errors => .ok (.refused errors)
    | errors => .ok (.refused errors)
  | errors => .ok (.refused errors)

def execute (definition : Definition) (request : Request) : Except Fault Response := do
  answer definition (← constructed definition request)

end CustomScalars.Execution
