import CustomScalars.Text.Lowercase
import CustomScalars.Text.NaturalOrder

/-!
# Similar names

A name that is not known is often a known one misspelt. The distance of two names is the least
number of single edits that lead from one to the other: a character left out, put in or replaced,
or two neighbours exchanged; case is looked at only to tell names apart that agree otherwise. Names
within two fifths of a name's length are suggested in its place, the nearest ones first.
-/
namespace CustomScalars.Text

/-- The next row of the table of distances between beginnings of two texts: `up` is the row above
and `upper` the row above that. -/
def nextRow (left right : Array Char) (row : Nat) (up upper : Array Nat) : Array Nat :=
  (List.range right.size).foldl
    (fun cells column =>
      let replaced := up.getD column 0 + (if left[row]? = right[column]? then 0 else 1)
      let edited := min replaced (min (up.getD (column + 1) 0 + 1) (cells.getD column 0 + 1))
      let exchanged := 0 < row && 0 < column && left[row]? = right[column - 1]? &&
        left[row - 1]? = right[column]?
      cells.push (if exchanged then min edited (upper.getD (column - 1) 0 + 1) else edited))
    #[row + 1]

def editDistance (left right : List Char) : Nat :=
  let lefts := left.toArray
  let rights := right.toArray
  let first := (List.range (rights.size + 1)).toArray
  let (last, _) := (List.range lefts.size).foldl
    (fun (up, upper) row => (nextRow lefts rights row up upper, up)) (first, first)
  last.getD rights.size 0

/-- The distance of two names. Names that differ in case alone are one edit apart. -/
def nameDistance (left right : String) : Nat :=
  if left = right then 0
  else
    let distance := editDistance (lower left.toList) (lower right.toList)
    if distance = 0 then 1 else distance

def tolerance (name : String) : Nat := name.length * 2 / 5 + 1

/-- Whether the first of two suggestions is not to come after the second. -/
def isNoFarther (name left right : String) : Bool :=
  ((compare (nameDistance name left) (nameDistance name right)).then
    (compareNaturally left right)).isLE

def similar (name : String) (known : List String) : List String :=
  (known.eraseDups.filter fun other => nameDistance name other ≤ tolerance name).mergeSort
    (isNoFarther name)

/-- The end of a list of three or more alternatives. -/
def furtherAlternatives (first second : String) : List String → String
  | [] => s!"'{first}', or '{second}'"
  | third :: rest => s!"'{first}', " ++ furtherAlternatives second third rest

/-- A list of names as alternatives. -/
def alternatives : List String → String
  | [] => ""
  | [name] => s!"'{name}'"
  | [first, second] => s!"'{first}' or '{second}'"
  | first :: second :: third :: rest => s!"'{first}', " ++ furtherAlternatives second third rest

/-- What is put behind a message about an unknown name: at most five suggestions, with the word for
what they are in front. -/
def hintOf (noun name : String) (known : List String) : String :=
  match (similar name known).take 5 with
  | [] => ""
  | suggestions => s!" Did you mean {noun}{alternatives suggestions}?"

def hint (name : String) (known : List String) : String := hintOf "" name known

end CustomScalars.Text
