import CustomScalars.Execution.Declared
import CustomScalars.Execution.Selected
import CustomScalars.Execution.VariableUse
import CustomScalars.Value.Summary

/-!
# Input before execution

A request is validated as it stands: its variables, its selections and the literals in them. Then
the values supplied for variables are coerced. Either step looks at everything it has to look at
and collects all errors, up to a limit; nothing runs if there are any.
-/
namespace CustomScalars.Execution

open CustomScalars (Definition)

def validationLimit : Nat := 100

def validationNotice : String :=
  "Too many validation errors, error limit reached. Validation aborted."

/-- The errors of a request, in the order in which a reader meets their causes; what concerns the
request as a whole comes last. -/
def validationErrors (definition : Definition) (request : Request) : List ResponseError :=
  declarationErrors (request.types definition.name) request.declarations ++
    conflicts request.selections ++
    request.selections.flatMap (selectionErrors definition request) ++
    useErrors definition.name request

def validate (definition : Definition) (request : Request) : List ResponseError :=
  ResponseError.capped validationLimit validationNotice (validationErrors definition request)

/-- What is wrong with a supplied value, or with an item at a position inside it. -/
structure InputError where
  position : List Nat
  value : Value
  message : String
  extensions : Table Value

def writtenPosition (name : String) (position : List Nat) : String :=
  if position.isEmpty then ""
  else s!" at '{name}" ++ String.join (position.map fun index => s!"[{index}]") ++ "'"

def invalidVariable (name : String) (error : InputError) : ResponseError where
  message :=
    s!"Variable '${name}' got invalid value {error.value.summary}" ++
      writtenPosition name error.position ++ "; " ++ error.message
  path := none
  extensions := error.extensions

def missingVariable (name : String) (type : TypeRef) : ResponseError :=
  .ofMessage s!"Variable '${name}' of required type '{type.written}' was not provided."

def nullVariable (name : String) (type : TypeRef) : ResponseError :=
  .ofMessage s!"Variable '${name}' of non-null type '{type.written}' must not be null."

def nullMessage (type : TypeRef) : String :=
  s!"Expected non-nullable type '{type.written}' not to be None."

def notTextMessage (value : Value) : String :=
  s!"String cannot represent a non string value: {value.summary}"

def notFlagMessage (value : Value) : String :=
  s!"Boolean cannot represent a non boolean value: {value.summary}"

def unknownEnumerationValue (type name : String) : String :=
  s!"Value '{name}' does not exist in '{type}' enum."

def notEnumerationValue (type : String) (value : Value) : String :=
  s!"Enum '{type}' cannot represent non-string value: {value.summary}."

def enumerationHint (known : List String) (name : String) : String :=
  Text.hintOf "the enum value " name known

/-- A value of an enumeration is supplied by its name. -/
def coerceEnumeration (type : String) (known : List String) (position : List Nat) :
    Value → Except InputError Value
  | .text brand name =>
    if known.contains name then .ok (.text brand name)
    else
      .error ⟨position, .text brand name,
        unknownEnumerationValue type name ++ enumerationHint known name, []⟩
  | value =>
    .error ⟨position, value,
      notEnumerationValue type value ++ enumerationHint known value.summary, []⟩

/-- What the scalar makes of a supplied value. It explains itself only where it rejects. -/
def coerceScalar (definition : Definition) (position : List Nat) (value : Value) :
    Except InputError Value :=
  let expected := s!"Expected type '{definition.name}'."
  match definition.engineParseValue value with
  | .ok coerced =>
    if coerced.isUndefined then .error ⟨position, value, expected, []⟩ else .ok coerced
  | .error fault =>
    if fault.category = .validation then
      .error ⟨position, value, fault.message, fault.extensions⟩
    else .error ⟨position, value, s!"{expected} {fault.message}", []⟩

def coerceNamed (definition : Definition) (name : String) (position : List Nat) (value : Value) :
    Except InputError Value :=
  if name = stringTypeName then
    match value with
    | .text brand content => .ok (.text brand content)
    | _ => .error ⟨position, value, notTextMessage value, []⟩
  else if name = booleanTypeName then
    match value with
    | .bool flag => .ok (.bool flag)
    | _ => .error ⟨position, value, notFlagMessage value, []⟩
  else match enumerationValues.lookup name with
    | some known => coerceEnumeration name known position value
    | none => coerceScalar definition position value

/-- A supplied value as a value of a type, and the errors found in it. What is no list counts as a
list of one item where a list is expected. -/
def coerceInput (definition : Definition) :
    TypeRef → List Nat → Value → Value × List InputError
  | .nonNull inner, position, value =>
    if value.isNull || value.isUndefined then
      (.undefined, [⟨position, value, nullMessage (.nonNull inner), []⟩])
    else coerceInput definition inner position value
  | .list item, position, value =>
    if value.isNull || value.isUndefined then (.null, [])
    else match value.listItems? with
      | some items =>
        let results := items.mapIdx fun index part =>
          coerceInput definition item (position ++ [index]) part
        (.list none (results.map Prod.fst), results.flatMap Prod.snd)
      | none =>
        let (coerced, errors) := coerceInput definition item position value
        (.list none [coerced], errors)
  | .named name, position, value =>
    if value.isNull || value.isUndefined then (.null, [])
    else match coerceNamed definition name position value with
      | .ok coerced => (coerced, [])
      | .error error => (.undefined, [error])

/-- The value of one variable, `none` when it was neither given nor required, and its errors. -/
def coerceVariable (definition : Definition) (declaration : VariableDeclaration)
    (supplied : Option Value) : Option Value × List ResponseError :=
  match supplied with
  | none =>
    if declaration.type.isNonNull then
      (none, [missingVariable declaration.name declaration.type])
    else (none, [])
  | some value =>
    if value.isNull && declaration.type.isNonNull then
      (none, [nullVariable declaration.name declaration.type])
    else
      let (coerced, errors) := coerceInput definition declaration.type [] value
      (some coerced, errors.map (invalidVariable declaration.name))

/-- The values of all variables, and the errors of those that have none. -/
def coerceDeclarations (definition : Definition) (supplied : Table Value) :
    List VariableDeclaration → Table Value × List ResponseError
  | [] => ([], [])
  | declaration :: rest =>
    let (value?, errors) :=
      coerceVariable definition declaration (supplied.lookup declaration.name)
    let (values, others) := coerceDeclarations definition supplied rest
    ((value?.toList.map fun value => (declaration.name, value)) ++ values, errors ++ others)

def coercionLimit : Nat := 50

def coercionNotice : String :=
  "Too many errors processing variables, error limit reached. Execution aborted."

/-- The values supplied for variables by name. -/
def suppliedEntries (supplied : Value) : Except Fault (Table Value) :=
  if supplied.isNull then .ok []
  else match supplied.record? with
    | some entries => .ok (Value.named entries)
    | none => .error .wrongArguments

def coerceVariables (definition : Definition) (declarations : List VariableDeclaration)
    (supplied : Table Value) : Table Value × List ResponseError :=
  let (values, errors) := coerceDeclarations definition supplied declarations
  (values, ResponseError.capped coercionLimit coercionNotice errors)

end CustomScalars.Execution
