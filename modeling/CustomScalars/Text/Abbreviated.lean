/-!
# Abbreviated text

What is too long to be reported in full is reported by its beginning and its end, with three dots
for what is left out between them.
-/
namespace CustomScalars.Text

def omission : String := "..."

def greatestSize : Nat := 240

/-- A text of at most 240 characters; in a longer one the middle gives way to the dots. -/
def abbreviated (text : String) : String :=
  if greatestSize < text.length then
    let chars := text.toList
    String.ofList (chars.take 118 ++ omission.toList ++ chars.drop (chars.length - 119))
  else text

def greatestCount : Nat := 10

/-- At most ten parts; of more, the first five and the last four. -/
def abbreviatedParts (parts : List String) : List String :=
  if greatestCount < parts.length then
    parts.take 5 ++ omission :: parts.drop (parts.length - 4)
  else parts

end CustomScalars.Text
