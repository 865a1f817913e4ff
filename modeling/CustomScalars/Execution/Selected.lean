import CustomScalars.Execution.QueryType
import CustomScalars.Literal.Printer
import CustomScalars.Text.Abbreviated
import CustomScalars.Text.Similar

/-!
# Selected fields

A selection names a field that the query type has, gives it the arguments that it needs and no
others, and gives literals that the scalar can read. Two selections under one key are one, so they
have to ask for the same.
-/
namespace CustomScalars.Execution

open CustomScalars (Definition)

def unknownField (request : Request) (field : String) : ResponseError :=
  .ofMessage
    (s!"Cannot query field '{field}' on type '{rootTypeName}'." ++
      Text.hint field request.ownFields.names)

def withoutSubfields (field : String) (type : TypeRef) : ResponseError :=
  .ofMessage
    (s!"Field '{field}' of type '{type.written}' must have a selection of subfields. " ++
      s!"Did you mean '{field} \x7b ... \x7d'?")

def unknownArgument (field : String) (parameters : Table TypeRef) : ResponseError :=
  .ofMessage
    (s!"Unknown argument '{imageParameter}' on field '{rootTypeName}.{field}'." ++
      Text.hint imageParameter parameters.names)

def missingArgument (field parameter : String) (type : TypeRef) : ResponseError :=
  .ofMessage
    (s!"Field '{field}' argument '{parameter}' of type '{type.written}' is required, but it " ++
      "was not provided.")

/-- A literal that was not read, with the reason if the scalar did not give one itself. -/
def unreadLiteral (place : TypeRef) (literal : Literal) (reason : String) : ResponseError :=
  .ofMessage s!"Expected value of type '{place.written}', found {literal.written}{reason}"

/-- The error of a literal that was handed to the scalar. -/
def parsedError? (place : TypeRef) (literal : Literal) :
    Except Fault Value → Option ResponseError
  | .ok value => if value.isUndefined then some (unreadLiteral place literal ".") else none
  | .error fault =>
    if fault.category = .validation then some (.ofFault fault)
    else some (unreadLiteral place literal s!"; {fault.message}")

/-- The error of an argument. A variable is left to the next step, and null only needs a type that
allows it. -/
def argumentError? (definition : Definition) (type : TypeRef) : Literal → Option ResponseError
  | .variableRef _ => none
  | .null => if type.isNonNull then some (unreadLiteral type .null ".") else none
  | .list items =>
    parsedError? type.insideBrackets (.list items)
      (definition.engineParseLiteral (.list items) .null)
  | literal => parsedError? type literal (definition.engineParseLiteral literal .null)

mutual

/-- The names that come again in one object, wherever in the literal it stands. -/
def repeatedFields : Literal → List String
  | .list items => repeatedInItems items
  | .object fields => repeatedAfter [] fields
  | _ => []

def repeatedInItems : List Literal → List String
  | [] => []
  | item :: rest => repeatedFields item ++ repeatedInItems rest

def repeatedAfter (before : List String) : List (String × Literal) → List String
  | [] => []
  | (name, value) :: rest =>
    (if before.contains name then [name] else []) ++ repeatedFields value ++
      repeatedAfter (name :: before) rest

end

def repeatedField (name : String) : ResponseError :=
  .ofMessage s!"There can be only one input field named '{name}'."

/-- The errors of a given argument; in a field that does not exist nothing is known of it. -/
def givenErrors (definition : Definition) (field : String) (signature? : Option Signature)
    (literal : Literal) : List ResponseError :=
  (match signature? with
    | none => []
    | some signature =>
      match signature.parameters.lookup imageParameter with
      | none => [unknownArgument field signature.parameters]
      | some type => (argumentError? definition type literal).toList) ++
    (repeatedFields literal).map repeatedField

def missingErrors (selection : Selection) (signature : Signature) : List ResponseError :=
  (signature.parameters.filter fun parameter =>
    parameter.2.isNonNull && !(selection.argument.isSome && parameter.1 == imageParameter)).map
    fun parameter => missingArgument selection.field parameter.1 parameter.2

def isComposite (types : Table TypeKind) (type : TypeRef) : Bool :=
  (types.lookup type.innermost).any isCompositeKind

def selectionErrors (definition : Definition) (request : Request) (selection : Selection) :
    List ResponseError :=
  let signature? := request.signature? selection.field
  let given := match selection.argument with
    | some literal => givenErrors definition selection.field signature? literal
    | none => []
  match signature? with
  | none => unknownField request selection.field :: given
  | some signature =>
    (if isComposite (request.types definition.name) signature.type then
      [withoutSubfields selection.field signature.type]
    else []) ++ given ++ missingErrors selection signature

def argumentText (selection : Selection) : Option String :=
  selection.argument.map fun literal => literal.ordered.written

def conflictReason? (first second : Selection) : Option String :=
  if first.field ≠ second.field then
    some s!"'{first.field}' and '{second.field}' are different fields"
  else if argumentText first ≠ argumentText second then some "they have differing arguments"
  else none

/-- The number of characters of a key that an error shows. -/
def shownKeyLength : Nat := 1000

def shownKey (key : String) : String :=
  if shownKeyLength < key.length then
    String.ofList (key.toList.take shownKeyLength) ++ Text.omission
  else key

def conflict (key reason : String) : ResponseError :=
  .ofMessage
    (s!"Fields '{shownKey key}' conflict because {reason}. Use different aliases on the " ++
      "fields to fetch both if this was intentional.")

/-- The errors of selections under one key, each compared with all that follow. -/
def conflictsAmong : List Selection → List ResponseError
  | [] => []
  | first :: rest =>
    (rest.filterMap fun second => (conflictReason? first second).map (conflict first.key)) ++
      conflictsAmong rest

def conflicts (selections : List Selection) : List ResponseError :=
  (selections.map Selection.key).eraseDups.flatMap fun key =>
    conflictsAmong (selections.filter fun selection => selection.key == key)

/-- The selections with each key once, where it first came. -/
def merged : List Selection → List Selection
  | [] => []
  | first :: rest => first :: (merged rest).filter fun other => other.key ≠ first.key

end CustomScalars.Execution
