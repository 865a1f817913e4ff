import CustomScalars.Library

/-!
# Image scalars from settings

An image scalar may be asked for with its extensions and its policy on case given or left open.
What is left open is taken from the settings of a schema.
-/
namespace CustomScalars.Image

structure Request where
  name : Value
  description : Value
  extensions : Value
  caseSensitive : Value
  schema : Value

namespace Request

def standard : Request where
  name := .ofText standardName
  description := .ofText scalarDescription
  extensions := .null
  caseSensitive := .null
  schema := .null

end Request

def extensionsKey : String := "custom_scalars.Image.extensions"

def caseSensitiveKey : String := "custom_scalars.Image.case_sensitive"

def configuredScalar (request : Request) : Action Definition := do
  let extensions ←
    Action.orSetting request.extensions extensionsKey Rule.defaultExtensions request.schema
  let caseSensitive ←
    Action.orSetting request.caseSensitive caseSensitiveKey (.bool false) request.schema
  Action.ofExcept (buildScalar request.name request.description extensions caseSensitive)

end CustomScalars.Image
