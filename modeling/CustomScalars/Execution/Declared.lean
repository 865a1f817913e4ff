import CustomScalars.Execution.QueryType
import CustomScalars.Text.Similar

/-!
# Declared variables

A variable is declared once, with a type that the schema has and whose values can be supplied.
-/
namespace CustomScalars.Execution

def repeatedDeclaration (name : String) : ResponseError :=
  .ofMessage s!"There can be only one variable named '${name}'."

/-- One error for every name that is declared more than once. -/
def repeatedDeclarations (declarations : List VariableDeclaration) : List ResponseError :=
  let names := declarations.map VariableDeclaration.name
  (names.eraseDups.filter fun name => 1 < names.count name).map repeatedDeclaration

def unknownType (name : String) (known : List String) : ResponseError :=
  .ofMessage (s!"Unknown type '{name}'." ++ Text.hint name known)

def notInputType (declaration : VariableDeclaration) : ResponseError :=
  .ofMessage
    (s!"Variable '${declaration.name}' cannot be non-input type " ++
      s!"'{declaration.type.written}'.")

def declarationError? (types : Table TypeKind) (declaration : VariableDeclaration) :
    Option ResponseError :=
  match types.lookup declaration.type.innermost with
  | none => some (unknownType declaration.type.innermost types.names)
  | some kind => if isInputKind kind then none else some (notInputType declaration)

def declarationErrors (types : Table TypeKind) (declarations : List VariableDeclaration) :
    List ResponseError :=
  repeatedDeclarations declarations ++ declarations.filterMap (declarationError? types)

end CustomScalars.Execution
