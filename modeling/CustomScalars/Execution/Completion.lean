import CustomScalars.Execution.QueryType
import CustomScalars.Value.Summary

/-!
# Completing values

The value of a field becomes part of the answer according to its type: a list item by item, and a
single value through its scalar. What cannot be completed is null at the nearest position where
null is allowed, and the error is listed there; until then it ends whatever it is a part of.
-/
namespace CustomScalars.Execution

open CustomScalars (Definition)

/-- A completed value, or the error that is still looking for a place, and the errors that have
found theirs. -/
structure Completion where
  result : Except ResponseError Value
  errors : List ResponseError

namespace Completion

def done (value : Value) : Completion := ⟨.ok value, []⟩

def failed (error : ResponseError) : Completion := ⟨.error error, []⟩

/-- Give the error its place here, when null is allowed. -/
def settle (nullable : Bool) (completion : Completion) : Completion :=
  match completion.result with
  | .ok _ => completion
  | .error error =>
    if nullable then ⟨.ok .null, completion.errors ++ [error]⟩ else completion

/-- Null is an error here. -/
def nonNull (error : ResponseError) (completion : Completion) : Completion :=
  match completion.result with
  | .ok .null => ⟨.error error, completion.errors⟩
  | _ => completion

end Completion

/-- Names of the numerals of what is not finite. -/
def unboundedNumerals : List String := ["inf", "-inf", "nan"]

/-- The text of a value of the type `String`, if it has one. A text is itself, a truth value its
small word and a finite number its numeral. Of all other values only branded ones are displayed. -/
def plainText? : Value → Option Value
  | .text brand content => some (.text brand content)
  | .bool flag => some (.ofText (if flag then "true" else "false"))
  | .int _ number => some (.ofText (toString number))
  | .float brand numeral =>
    if unboundedNumerals.contains numeral && brand.isNone then none else some (.ofText numeral)
  | .list (some brand) items => some (.ofText (Value.list brand items).display)
  | .record (some brand) entries => some (.ofText (Value.record brand entries).display)
  | _ => none

def noTextError (value : Value) : ResponseError :=
  .ofMessage s!"String cannot represent value: {value.summary}"

def nullError (field : String) : ResponseError :=
  .ofMessage s!"Cannot return null for non-nullable field {rootTypeName}.{field}."

def notListError (field : String) : ResponseError :=
  .ofMessage
    s!"Expected Iterable, but did not find one for field '{rootTypeName}.{field}'."

/-- The undefined value is an error of its own. -/
def undefinedError : ResponseError := .ofMessage Value.undefined.summary

/-- A scalar that answers with nothing has not completed the value. -/
def nothingError (name : String) (value answer : Value) : ResponseError :=
  .ofMessage
    (s!"Expected `{name}.serialize({value.summary})` to return non-nullable value, returned: " ++
      answer.summary)

def completeText (path : Path) (value : Value) : Completion :=
  match plainText? value with
  | some text => .done text
  | none => .failed ((noTextError value).located path)

def completeLeaf (definition : Definition) (name : String) (path : Path) (value : Value) :
    Completion :=
  if name = stringTypeName then completeText path value
  else match definition.engineSerialize value with
    | .error fault => .failed ((ResponseError.ofFault fault).located path)
    | .ok answer =>
      if answer.isNull || answer.isUndefined then
        .failed ((nothingError name value answer).located path)
      else .done answer

/-- Complete the items from a position on, collecting what is done. -/
def completeItems (complete : Path → Value → Completion) (nullable : Bool) (path : Path) :
    Nat → List Value → Except ResponseError (List Value) × List ResponseError
  | _, [] => (.ok [], [])
  | position, item :: rest =>
    let completion := (complete (path ++ [.index position]) item).settle nullable
    match completion.result with
    | .error error => (.error error, completion.errors)
    | .ok value =>
      let (values, errors) := completeItems complete nullable path (position + 1) rest
      (values.map (value :: ·), completion.errors ++ errors)

def completeList (complete : Path → Value → Completion) (nullable : Bool) (field : String)
    (path : Path) (value : Value) : Completion :=
  match value.listItems? with
  | none => .failed ((notListError field).located path)
  | some items =>
    let (values, errors) := completeItems complete nullable path 0 items
    ⟨values.map (.list none), errors⟩

def complete (definition : Definition) (field : String) : TypeRef → Path → Value → Completion
  | .nonNull inner, path, value =>
    (complete definition field inner path value).nonNull ((nullError field).located path)
  | .list item, path, value =>
    if value.isNull then .done .null
    else if value.isUndefined then .failed (undefinedError.located path)
    else completeList (complete definition field item) (!item.isNonNull) field path value
  | .named name, path, value =>
    if value.isNull then .done .null
    else if value.isUndefined then .failed (undefinedError.located path)
    else completeLeaf definition name path value

end CustomScalars.Execution
