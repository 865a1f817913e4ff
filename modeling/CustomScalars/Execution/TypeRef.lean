/-!
# References to types

A type is referred to by its name, wrapped in brackets for lists and followed by a mark where null
is not allowed.
-/
namespace CustomScalars.Execution

inductive TypeRef where
  | named (name : String)
  | list (item : TypeRef)
  | nonNull (inner : TypeRef)
  deriving DecidableEq

namespace TypeRef

def isNonNull : TypeRef → Bool
  | .nonNull _ => true
  | _ => false

/-- The name inside all wrappings. -/
def innermost : TypeRef → String
  | .named name => name
  | .list item => item.innermost
  | .nonNull inner => inner.innermost

/-- The type of what stands inside brackets where this type is expected; a type that is no list is
expected of the items too. Null is decided by the list. -/
def insideBrackets : TypeRef → TypeRef
  | .nonNull inner => inner.insideBrackets
  | .list item => item
  | .named name => .named name

/-- Whether every value of the first type is one of the second. -/
def fits : TypeRef → TypeRef → Bool
  | .nonNull inner, .nonNull place => inner.fits place
  | .nonNull inner, place => inner.fits place
  | .list item, .list place => item.fits place
  | .named name, .named place => name == place
  | _, _ => false

def written : TypeRef → String
  | .named name => name
  | .list item => "[" ++ item.written ++ "]"
  | .nonNull inner => inner.written ++ "!"

/-- Read a reference from its last character to its first. -/
def readBackwards : List Char → TypeRef
  | '!' :: rest => .nonNull (readBackwards rest)
  | ']' :: rest => .list (readBackwards rest.dropLast)
  | chars => .named (String.ofList chars.reverse)
termination_by chars => chars.length
decreasing_by
  · simp
  · simp only [List.length_dropLast, List.length_cons]; omega

def ofText (text : String) : TypeRef := readBackwards text.toList.reverse

end TypeRef

end CustomScalars.Execution
