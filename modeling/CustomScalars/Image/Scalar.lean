import CustomScalars.Definition.Basic

/-!
# The image scalar

An image scalar checks all three positions of a value with one image rule. The standard one is
made from the library's own extensions and needs no settings.
-/
namespace CustomScalars.Image

def scalarDescription : String :=
  "A reference to an image file, such as a URL or path ending in a recognized image extension " ++
    "(jpeg, png, gif, ...)."

def Rule.parseLiteral (rule : Rule) (typeName : Value) (literal : Literal) (bindings : Value) :
    Outcome :=
  parseTextLiteral rule.check typeName bindings literal

def scalarDraft (name description : Value) (rule : Rule) : Draft where
  name := some name
  description := description
  serialize := .callable (.ofRule rule)
  parseValue := .callable (.ofRule rule)
  parseLiteral := .callable (.ofLiteralFunction (rule.parseLiteral name))

/-- The rule is made first, so a fault in the extensions is noticed before one in the name. -/
def buildScalar (name description extensions caseSensitive : Value) : Except Fault Definition := do
  let rule ← Rule.build extensions caseSensitive name
  Definition.ofDraft (scalarDraft name description rule)

def standardName : String := "Image"

def standardScalar : Definition where
  name := standardName
  brand := none
  description := .ofText scalarDescription
  serialize := Rule.standard.check
  rule := some Rule.standard
  input := some ⟨Rule.standard.check, Rule.standard.parseLiteral (.ofText standardName)⟩

end CustomScalars.Image
