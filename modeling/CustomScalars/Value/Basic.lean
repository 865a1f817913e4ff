import CustomScalars.Table

/-!
# Values

The values that settings hold, that resolvers return and that requests supply. They are dynamic:
whether a value is a text, a number or a collection is part of what a scalar has to check. Five base
kinds may carry a brand, the name of a more special type whose values otherwise behave like those of
the base. The keys of a record are values themselves. A foreign value is known by the name of its
type alone, unless it is a stream: then it can be gone through, and a passing stream only once.
-/
namespace CustomScalars

inductive Value where
  | null
  | bool (flag : Bool)
  | int (brand : Option String) (number : Int)
  | float (brand : Option String) (numeral : String)
  | text (brand : Option String) (content : String)
  | bytes (octets : List UInt8)
  | list (brand : Option String) (items : List Value)
  | tuple (items : List Value)
  | set (items : List Value)
  | frozenset (items : List Value)
  | record (brand : Option String) (entries : List (Value × Value))
  | foreign (typeName : String)
  | stream (typeName : String) (isPassing : Bool) (items : List Value)

instance : Inhabited Value := ⟨.null⟩

/-- The kinds of value that an output encoding tells apart. -/
inductive ValueKind where
  | text
  | number
  | boolean
  | null
  | structured
  deriving DecidableEq

namespace ValueKind

def all : List ValueKind := [.text, .number, .boolean, .null, .structured]

def name : ValueKind → String
  | .text => "text"
  | .number => "number"
  | .boolean => "boolean"
  | .null => "null"
  | .structured => "structured"

end ValueKind

namespace Value

def ofText (content : String) : Value := .text none content

def ofTexts (contents : List String) : Value := .list none (contents.map ofText)

/-- Names as the keys of a record. -/
def keyed (entries : Table Value) : List (Value × Value) :=
  entries.map fun entry => (ofText entry.1, entry.2)

def ofEntries (entries : Table Value) : Value := .record none (keyed entries)

def undefinedTypeName : String := "UndefinedType"

/-- The value of a variable that was declared and never given. -/
def undefined : Value := .foreign undefinedTypeName

def isNull : Value → Bool
  | .null => true
  | _ => false

def isUndefined : Value → Bool
  | .foreign typeName => typeName == undefinedTypeName
  | _ => false

def kind : Value → ValueKind
  | .null => .null
  | .bool _ => .boolean
  | .text _ _ => .text
  | .int _ _ | .float _ _ => .number
  | _ => .structured

def typeName : Value → String
  | .null => "NoneType"
  | .bool _ => "bool"
  | .int brand _ => brand.getD "int"
  | .float brand _ => brand.getD "float"
  | .text brand _ => brand.getD "str"
  | .bytes _ => "bytes"
  | .list brand _ => brand.getD "list"
  | .tuple _ => "tuple"
  | .set _ => "set"
  | .frozenset _ => "frozenset"
  | .record brand _ => brand.getD "dict"
  | .foreign typeName | .stream typeName _ _ => typeName

/-- Null, false, zero and everything empty count as false; a foreign value counts as true, except
the undefined one. A passing stream does not tell that it is empty. -/
def truthy : Value → Bool
  | .null => false
  | .bool flag => flag
  | .int _ number => number != 0
  | .float _ numeral => numeral != "0.0" && numeral != "-0.0"
  | .text _ content => !content.isEmpty
  | .bytes octets => !octets.isEmpty
  | .list _ items | .tuple items | .set items | .frozenset items => !items.isEmpty
  | .record _ entries => !entries.isEmpty
  | .foreign typeName => typeName != undefinedTypeName
  | .stream _ isPassing items => isPassing || !items.isEmpty

/-- Foreign types whose values may change and so cannot be looked up. -/
def changeableTypeNames : List String :=
  ["bytearray", "deque", "dict_items", "dict_keys", "slice"]

mutual

/-- Whether the value may stand as a key: it cannot change, and neither can its parts. -/
def isKey : Value → Bool
  | .list _ _ | .set _ | .record _ _ => false
  | .tuple items | .frozenset items => areKeys items
  | .foreign typeName | .stream typeName _ _ => !changeableTypeNames.contains typeName
  | _ => true

def areKeys : List Value → Bool
  | [] => true
  | item :: rest => item.isKey && areKeys rest

end

/-- The items of a list, tuple, set or frozen set. -/
def items? : Value → Option (List Value)
  | .list _ items | .tuple items | .set items | .frozenset items => some items
  | _ => none

/-- What going through the value yields: items, the keys of a record, the characters of a text or
the numbers of bytes; `none` for a value without parts. -/
def parts? : Value → Option (List Value)
  | .record _ entries => some (entries.map Prod.fst)
  | .text _ content => some (content.toList.map fun char => ofText (String.singleton char))
  | .bytes octets => some (octets.map fun octet => .int none octet.toNat)
  | .stream _ _ items => some items
  | value => value.items?

/-- Whether going through the value leaves nothing of its parts. -/
def isPassing : Value → Bool
  | .stream _ isPassing _ => isPassing
  | _ => false

/-- The type of bytes that may change. -/
def changeableBytesName : String := "bytearray"

/-- The items of what counts as a list in a request or an answer, which bytes do not. -/
def listItems? : Value → Option (List Value)
  | .stream typeName _ items => if typeName = changeableBytesName then none else some items
  | value => value.items?

def text? : Value → Option String
  | .text _ content => some content
  | _ => none

/-- What a record has under texts, by their contents. -/
def named (entries : List (Value × Value)) : Table Value :=
  entries.filterMap fun entry => entry.1.text?.map fun name => (name, entry.2)

def record? : Value → Option (List (Value × Value))
  | .record _ entries => some entries
  | _ => none

theorem kind_eq_text_iff {value : Value} :
    value.kind = .text ↔ ∃ brand content, value = .text brand content := by
  cases value <;> simp [kind]

@[simp] theorem named_keyed (entries : Table Value) : named (keyed entries) = entries := by
  induction entries with
  | nil => rfl
  | cons entry rest ih => exact congrArg (List.cons entry) ih

end Value

end CustomScalars
