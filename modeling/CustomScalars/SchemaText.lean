import CustomScalars.Definition.Basic

/-!
# Names in the text of a schema

A schema that is declared in a text has to be readable: each name in it is read as the name that it
is. Among things of one kind a name stands for one of them.
-/
namespace CustomScalars.SchemaText

/-- Whether a text can be read as the name that it is. -/
def isPlainName (name : String) : Bool :=
  Definition.isName name.toList && name.toList.getLast? != some '\n'

def checkReadable (names : List String) : Except Fault Unit :=
  if names.all isPlainName then .ok () else .error .unreadableSchema

/-- The first name that comes again is reported. -/
def checkDistinct (names : List String) : Except Fault Unit :=
  match names.find? fun name => 1 < names.count name with
  | some name => .error (.repeatedName name)
  | none => .ok ()

end CustomScalars.SchemaText
