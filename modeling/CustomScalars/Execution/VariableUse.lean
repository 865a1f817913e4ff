import CustomScalars.Execution.QueryType

/-!
# Used variables

Variables stand for arguments or for parts of them. Every variable that is used is declared, every
one that is declared is used, and a variable is used only where all its values are allowed. Inside
an object nothing is known about what is allowed, and so everything is.
-/
namespace CustomScalars.Execution

/-- A variable in some place, with the type that is expected there when that is known. -/
structure VariableUse where
  name : String
  place : Option TypeRef

mutual

def literalUses (place : Option TypeRef) : Literal → List VariableUse
  | .variableRef name => [⟨name, place⟩]
  | .list items => itemUses (place.map TypeRef.insideBrackets) items
  | .object fields => fieldUses fields
  | _ => []

def itemUses (place : Option TypeRef) : List Literal → List VariableUse
  | [] => []
  | item :: rest => literalUses place item ++ itemUses place rest

def fieldUses : List (String × Literal) → List VariableUse
  | [] => []
  | (_, value) :: rest => literalUses none value ++ fieldUses rest

end

namespace Request

/-- The uses of variables in the order in which they stand in the request. -/
def uses (request : Request) : List VariableUse :=
  request.selections.flatMap fun selection =>
    match selection.argument with
    | some literal => literalUses (request.argumentType? selection) literal
    | none => []

end Request

/-- The name that every request has. -/
def operationName : String := "Q"

def undeclared (name : String) : ResponseError :=
  .ofMessage s!"Variable '${name}' is not defined by operation '{operationName}'."

def unused (name : String) : ResponseError :=
  .ofMessage s!"Variable '${name}' is never used in operation '{operationName}'."

def misplaced (name : String) (type place : TypeRef) : ResponseError :=
  .ofMessage
    (s!"Variable '${name}' of type '{type.written}' used in position expecting type " ++
      s!"'{place.written}'.")

def undeclaredUses (request : Request) : List ResponseError :=
  let declared := request.declarations.map VariableDeclaration.name
  (request.uses.filter fun use => !declared.contains use.name).map fun use => undeclared use.name

def unusedDeclarations (request : Request) : List ResponseError :=
  let used := request.uses.map VariableUse.name
  (request.declarations.filter fun declaration => !used.contains declaration.name).map
    fun declaration => unused declaration.name

/-- Of two declarations of one variable the later one counts. -/
def declaredType? (declarations : List VariableDeclaration) (name : String) : Option TypeRef :=
  (declarations.reverse.find? fun declaration => declaration.name == name).map
    VariableDeclaration.type

def misplacedUse? (types : Table TypeKind) (declarations : List VariableDeclaration)
    (use : VariableUse) : Option ResponseError :=
  match declaredType? declarations use.name, use.place with
  | some type, some place =>
    if types.names.contains type.innermost && !type.fits place then
      some (misplaced use.name type place)
    else none
  | _, _ => none

def useErrors (scalar : String) (request : Request) : List ResponseError :=
  undeclaredUses request ++ unusedDeclarations request ++
    request.uses.filterMap (misplacedUse? (request.types scalar) request.declarations)

end CustomScalars.Execution
