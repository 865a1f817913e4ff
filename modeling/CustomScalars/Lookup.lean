import CustomScalars.Fault
import CustomScalars.Value.Same

/-!
# Looking up by a value

A value that may change cannot be looked up, neither in a table nor among the members of a set.
Tables are keyed by texts: a value of another kind finds nothing in them, and a brand makes no
difference.
-/
namespace CustomScalars

namespace Value

def checkKey (key : Value) : Except Fault Unit :=
  if key.isKey then .ok () else .error (.changeableKey key.typeName)

/-- The name that the value stands for as a key, if it is a text. -/
def keyName? (key : Value) : Except Fault (Option String) := do
  key.checkKey
  match key with
  | .text _ name => return some name
  | _ => return none

def checkWritable (value : Value) : Except Fault Unit :=
  if value.isWritable then .ok () else .error (.longNumber none)

/-- The value can name what there are settings for: it can be looked up, and it can be written. -/
structure CanName (value : Value) : Prop where
  isKey : value.isKey = true
  isWritable : value.isWritable = true

/-- The members of a set of some values. -/
def members (values : List Value) : Except Fault (List Value) := do
  values.forM checkKey
  return distinct values

end Value

namespace Table

variable {α : Type u}

def find (table : Table α) (key : Value) : Except Fault (Option α) :=
  key.keyName?.map fun name => name.bind fun text => table.lookup text

end Table

end CustomScalars
