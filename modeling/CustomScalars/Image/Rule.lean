import CustomScalars.Image.Extension
import CustomScalars.Text.Lowercase
import CustomScalars.Text.Ordered
import CustomScalars.Verdict

/-!
# The image rule

An image rule accepts the texts that end in one of its extensions and returns them unchanged. It
keeps its extensions as it compares them: without leading dots, in lower case unless it respects
case, and never empty.
-/
namespace CustomScalars.Image

structure Rule where
  extensions : List String
  caseSensitive : Bool
  typeName : Value

namespace Rule

def defaultTypeName : Value := .ofText "Image"

def defaultExtensions : Value := .frozenset (recognizedExtensions.map .ofText)

/-- The rule of a library that was not configured. -/
def standard : Rule := ⟨recognizedExtensions, false, defaultTypeName⟩

/-- An extension in the form in which it is compared. -/
def normalize (caseSensitive : Bool) (extension : List Char) : List Char :=
  if caseSensitive then extension else Text.lower extension

/-- One configured extension: any value, taken by its text, leading dots left out. -/
def normalizeEntry (caseSensitive : Bool) (entry : Value) : List Char :=
  normalize caseSensitive (entry.display.toList.dropWhile (· = '.'))

def normalizeEntries (caseSensitive : Bool) (entries : List Value) : List String :=
  Text.orderedSet
    (((entries.filter Value.truthy).map (normalizeEntry caseSensitive)).filterMap fun extension =>
      if extension.isEmpty then none else some (String.ofList extension))

/-- Only the entries that count as true are written. -/
def areWritable (entries : List Value) : Bool :=
  (entries.filter Value.truthy).all Value.isWritable

def build (extensions caseSensitive typeName : Value) : Except Fault Rule :=
  match extensions.items? with
  | none => .error (Fault.notCollection typeName extensions.typeName).told
  | some entries =>
    if areWritable entries then
      match normalizeEntries caseSensitive.truthy entries with
      | [] => .error (Fault.noExtension typeName).told
      | recognized => .ok ⟨recognized, caseSensitive.truthy, typeName⟩
    else .error (.longNumber none)

def recognizes (rule : Rule) (extension : List Char) : Bool :=
  rule.extensions.contains (String.ofList (normalize rule.caseSensitive extension))

def rejectNoText (rule : Rule) (value : Value) : Outcome :=
  rejectAs rule.typeName .wrongBaseType fun name =>
    s!"{name} must be a string, got {value.kind.name} ({value.typeName})"

def rejectNoExtension (rule : Rule) (reference : String) : Outcome :=
  rejectAs rule.typeName .notRecognizedImage fun name =>
    s!"{name} must reference an image file, '{reference}' has no file extension"

def rejectExtension (rule : Rule) (extension : List Char) : Outcome :=
  rejectAs rule.typeName .notRecognizedImage fun name =>
    s!"{name} must reference an image file, '.{String.ofList extension}' is not a " ++
      "recognized image extension"

def check (rule : Rule) : Value → Outcome
  | .text brand reference =>
    match extension? reference.toList with
    | none => rule.rejectNoExtension reference
    | some extension =>
      if rule.recognizes extension then .ok (.accepted (.text brand reference))
      else rule.rejectExtension extension
  | value => rule.rejectNoText value

def written (rule : Rule) : String :=
  s!"ImageReferenceRule(extensions={(Value.ofTexts rule.extensions).written}, " ++
    s!"case_sensitive={(Value.bool rule.caseSensitive).written})"

end Rule

end CustomScalars.Image
