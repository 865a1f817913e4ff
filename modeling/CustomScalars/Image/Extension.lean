import CustomScalars.Text.Split

/-!
# File extensions

The extension of a reference is what follows the last dot of its last path segment. A segment
without a dot has none, and neither has one that ends with its last dot.
-/
namespace CustomScalars.Image

/-- The extensions of image files that are recognized unless a configuration says otherwise. -/
def recognizedExtensions : List String :=
  ["apng", "avif", "bmp", "gif", "ico", "jfif", "jpeg", "jpg", "pjp", "pjpeg", "png", "svg", "tif",
   "tiff", "webp"]

def extension? (reference : List Char) : Option (List Char) :=
  match Text.splitLast? '.' (Text.afterLast '/' reference) with
  | some (_, extension) => if extension.isEmpty then none else some extension
  | none => none

end CustomScalars.Image
