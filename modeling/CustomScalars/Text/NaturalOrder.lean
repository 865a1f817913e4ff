/-!
# Natural order of names

Names are ordered as a reader would order them: a number inside a name counts as a number, so that
`item2` comes before `item10`.
-/
namespace CustomScalars.Text

/-- The runs of a text, other characters and digits in turn. The first run is of the kind asked
for and may be empty. -/
def runs (digits : Bool) : List Char → List (List Char)
  | [] => [[]]
  | char :: rest =>
    let tail := runs char.isDigit rest
    let extended := match tail with
      | [] => [[char]]
      | run :: others => (char :: run) :: others
    if char.isDigit = digits then extended else [] :: extended

def numberOf (run : List Char) : Nat :=
  run.foldl (fun number char => number * 10 + (char.toNat - '0'.toNat)) 0

def compareTexts (left right : List Char) : Ordering :=
  compare (String.ofList left) (String.ofList right)

/-- Equal numbers are told apart by how they are written. -/
def compareRuns (digits : Bool) (left right : List Char) : Ordering :=
  if digits then (compare (numberOf left) (numberOf right)).then (compareTexts left right)
  else compareTexts left right

def compareRunLists (digits : Bool) : List (List Char) → List (List Char) → Ordering
  | [], [] => .eq
  | [], _ :: _ => .lt
  | _ :: _, [] => .gt
  | left :: rest, right :: others =>
    (compareRuns digits left right).then (compareRunLists (!digits) rest others)

def compareNaturally (left right : String) : Ordering :=
  compareRunLists false (runs false left.toList) (runs false right.toList)

end CustomScalars.Text
