import CustomScalars.Value.Basic

/-!
# Kinds of rejection

The library rejects values for three reasons of its own. A scalar written by someone else may give
any value as its reason; the null value stands for a reason that was not given.
-/
namespace CustomScalars

inductive RejectionKind where
  | wrongBaseType
  | notRecognizedImage
  | unsupportedLiteralKind
  | custom (value : Value)

namespace RejectionKind

def unspecified : RejectionKind := .custom .null

def own : List RejectionKind := [.wrongBaseType, .notRecognizedImage, .unsupportedLiteralKind]

def codeName? : RejectionKind → Option String
  | .wrongBaseType => some "WRONG_BASE_TYPE"
  | .notRecognizedImage => some "NOT_RECOGNIZED_IMAGE"
  | .unsupportedLiteralKind => some "UNSUPPORTED_LITERAL_KIND"
  | .custom _ => none

/-- The value by which a client recognizes the reason. -/
def code : RejectionKind → Value
  | .wrongBaseType => .ofText "WRONG_BASE_TYPE"
  | .notRecognizedImage => .ofText "NOT_RECOGNIZED_IMAGE"
  | .unsupportedLiteralKind => .ofText "UNSUPPORTED_LITERAL_KIND"
  | .custom value => value

/-- The code of one of the library's own reasons stands for that reason, branded or not. -/
def ofValue : Value → RejectionKind
  | .text brand code =>
    (own.find? fun kind => kind.codeName? == some code).getD (.custom (.text brand code))
  | value => .custom value

def isSpecified (kind : RejectionKind) : Bool := !kind.code.isNull

end RejectionKind

end CustomScalars
