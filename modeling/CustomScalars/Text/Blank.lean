import CustomScalars.Text.CodeRange

/-!
# Blank text

White space here is every separator a reader cannot see, the four information separators and the
no-break spaces included. A zero-width space is not white space.
-/
namespace CustomScalars.Text

def whitespaceRanges : List CodeRange :=
  [⟨0x9, 0xD⟩, ⟨0x1C, 0x20⟩, ⟨0x85, 0x85⟩, ⟨0xA0, 0xA0⟩,
   ⟨0x1680, 0x1680⟩, ⟨0x2000, 0x200A⟩, ⟨0x2028, 0x2029⟩, ⟨0x202F, 0x202F⟩,
   ⟨0x205F, 0x205F⟩, ⟨0x3000, 0x3000⟩]

def isWhitespace (char : Char) : Bool := CodeRange.covers whitespaceRanges char.toNat

/-- Nothing but white space; the empty text is blank. -/
def isBlank (text : List Char) : Bool := text.all isWhitespace

end CustomScalars.Text
