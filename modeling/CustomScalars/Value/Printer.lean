import CustomScalars.Text.Quoted
import CustomScalars.Value.Basic

/-!
# Written values

A value has two texts. Its written form shows what it is made of, texts quoted, and is used where
values stand inside others or are reported back. Its display form is used in running text: a text
is displayed as it is, and every other value as it is written. A brand shows in neither.
-/
namespace CustomScalars.Value

def joined (separator : String) : List String → String
  | [] => ""
  | [part] => part
  | part :: rest => part ++ separator ++ joined separator rest

def quotedText (content : String) : String := String.ofList (Text.quoted content.toList)

def bracketed (opening : String) (parts : List String) (closing : String) : String :=
  opening ++ joined ", " parts ++ closing

/-- A tuple of one item keeps a comma, so that it is not taken for a bracketed value. -/
def writtenTuple : List String → String
  | [part] => "(" ++ part ++ ",)"
  | parts => bracketed "(" parts ")"

def writtenSet : List String → String
  | [] => "set()"
  | parts => bracketed "\x7b" parts "\x7d"

def writtenFrozenset : List String → String
  | [] => "frozenset()"
  | parts => bracketed "frozenset(\x7b" parts "\x7d)"

def writtenForeign (typeName : String) : String :=
  if typeName = undefinedTypeName then "Undefined"
  else if typeName = "ellipsis" then "Ellipsis"
  else "<" ++ typeName ++ ">"

mutual

def written : Value → String
  | .null => "None"
  | .bool true => "True"
  | .bool false => "False"
  | .int _ number => toString number
  | .float _ numeral => numeral
  | .text _ content => quotedText content
  | .bytes octets => String.ofList (Text.quotedBytes octets)
  | .list _ items => bracketed "[" (writtenItems items) "]"
  | .tuple items => writtenTuple (writtenItems items)
  | .set items => writtenSet (writtenItems items)
  | .frozenset items => writtenFrozenset (writtenItems items)
  | .record _ entries => bracketed "\x7b" (writtenEntries entries) "\x7d"
  | .foreign typeName | .stream typeName _ _ => writtenForeign typeName

def writtenItems : List Value → List String
  | [] => []
  | item :: rest => item.written :: writtenItems rest

def writtenEntries : List (Value × Value) → List String
  | [] => []
  | (key, value) :: rest => (key.written ++ ": " ++ value.written) :: writtenEntries rest

end

def display : Value → String
  | .text _ content => content
  | value => value.written

end CustomScalars.Value
