import CustomScalars.Literal

/-!
# Written literals

A literal is written as it would stand in a query. Texts stand between double quotes, with control
characters as escapes. Two objects with the same fields in another order mean the same, so a
literal also has a form in which fields are ordered by name, for comparing.

A query is known by its text alone: what is read where a literal is written may be a literal of
another kind, because three names are no enumeration values and because a number shows by itself
whether it is whole.
-/
namespace CustomScalars.Literal

/-- A control character as the four hexadecimal digits of its code. -/
def escapeControl (char : Char) : List Char :=
  Text.backslash :: 'u' :: (Text.hexDigits 4 char.toNat).map Char.toUpper

def isControl (char : Char) : Bool :=
  char.toNat < 0x20 || (0x7F ≤ char.toNat && char.toNat < 0xA0)

def escapeChar (char : Char) : List Char :=
  if char = Text.doubleQuote || char = Text.backslash then [Text.backslash, char]
  else if char = '\x08' then [Text.backslash, 'b']
  else if char = '\t' then [Text.backslash, 't']
  else if char = '\n' then [Text.backslash, 'n']
  else if char = '\x0c' then [Text.backslash, 'f']
  else if char = '\r' then [Text.backslash, 'r']
  else if isControl char then escapeControl char
  else [char]

def quoted (content : String) : String :=
  String.ofList (Text.encloseWith Text.doubleQuote (content.toList.flatMap escapeChar))

mutual

def written : Literal → String
  | .text content => quoted content.display
  | .int numeral | .float numeral => numeral
  | .boolean flag => if flag then "true" else "false"
  | .null => "null"
  | .enumeration name => name
  | .list items => Value.bracketed "[" (writtenItems items) "]"
  | .object fields => Value.bracketed "\x7b" (writtenFields fields) "\x7d"
  | .variableRef name => "$" ++ name
  | .otherNode nodeName => nodeName
  | .bare value => value.written

def writtenItems : List Literal → List String
  | [] => []
  | item :: rest => item.written :: writtenItems rest

def writtenFields : List (String × Literal) → List String
  | [] => []
  | (name, value) :: rest => (name ++ ": " ++ value.written) :: writtenFields rest

end

/-- The literal that a name is. -/
def ofName (name : String) : Literal :=
  if name = "true" then .boolean true
  else if name = "false" then .boolean false
  else if name = "null" then .null
  else .enumeration name

/-- The literal that a numeral is: whole unless it has a point or an exponent. -/
def ofNumeral (numeral : String) : Literal :=
  if numeral.toList.any fun char => char = '.' || char = 'e' || char = 'E' then .float numeral
  else .int numeral

mutual

/-- The literal that is read where this one is written. A text literal without a text, and a value
that is no part of a query, cannot be written. -/
def reread : Literal → Except Fault Literal
  | .text (.text _ content) => .ok (.text (.ofText content))
  | .text content => .error (.notText content.typeName)
  | .int numeral | .float numeral => .ok (ofNumeral numeral)
  | .enumeration name => .ok (ofName name)
  | .list items => (rereadItems items).map .list
  | .object fields => (rereadFields fields).map .object
  | .bare value => .error (.unwritable value.typeName)
  | literal => .ok literal

def rereadItems : List Literal → Except Fault (List Literal)
  | [] => .ok []
  | item :: rest => do
    let first ← item.reread
    return first :: (← rereadItems rest)

def rereadFields : List (String × Literal) → Except Fault (List (String × Literal))
  | [] => .ok []
  | (name, value) :: rest => do
    let first ← value.reread
    return (name, first) :: (← rereadFields rest)

end

/-- Put a field in front of the first one whose name comes after its own. -/
def insertField (name : String) (value : Literal) :
    List (String × Literal) → List (String × Literal)
  | [] => [(name, value)]
  | (other, present) :: rest =>
    if other < name then (other, present) :: insertField name value rest
    else (name, value) :: (other, present) :: rest

mutual

/-- The same literal with the fields of every object ordered by name. -/
def ordered : Literal → Literal
  | .list items => .list (orderedItems items)
  | .object fields => .object (orderedFields fields)
  | literal => literal

def orderedItems : List Literal → List Literal
  | [] => []
  | item :: rest => item.ordered :: orderedItems rest

def orderedFields : List (String × Literal) → List (String × Literal)
  | [] => []
  | (name, value) :: rest => insertField name value.ordered (orderedFields rest)

end

end CustomScalars.Literal
