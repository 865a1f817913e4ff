import CustomScalars.Text.Split

/-!
# Camel case

A name whose words are joined by underscores is written in camel case by starting every word but
the first with a capital and leaving the underscores out. Of underscores in a row only the first
one joins words; the others, and those at the end, stay. Capitals are those of the letters A to Z:
names have no others.
-/
namespace CustomScalars.Text

/-- A capital and then small letters only. -/
def capitalized : List Char → List Char
  | [] => []
  | first :: rest => first.toUpper :: rest.map Char.toLower

/-- A word that is not the first one of a name. -/
def joinedWord (word : List Char) : List Char := if word.isEmpty then ['_'] else capitalized word

def camelCase (name : String) : String :=
  match splitEvery '_' name.toList with
  | [] => ""
  | first :: rest => String.ofList (first ++ rest.flatMap joinedWord)

end CustomScalars.Text
