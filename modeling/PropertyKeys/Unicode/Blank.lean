import PropertyKeys.Unicode.CodeRange

/-!
# Blank characters

Blank characters separate the words of a type text and may surround names. They are the
characters with the property `White_Space`.
-/

namespace PropertyKeys.Unicode

/-- The ranges of the property `White_Space`. -/
def blankRanges : List CodeRange := [
  ⟨0x9, 0xD⟩, ⟨0x20, 0x20⟩, ⟨0x85, 0x85⟩, ⟨0xA0, 0xA0⟩, ⟨0x1680, 0x1680⟩, ⟨0x2000, 0x200A⟩,
  ⟨0x2028, 0x2029⟩, ⟨0x202F, 0x202F⟩, ⟨0x205F, 0x205F⟩, ⟨0x3000, 0x3000⟩]

/-- Whether a character is blank: it has the property `White_Space`. -/
def isBlank (c : Char) : Bool :=
  CodeRange.covers blankRanges c.toNat

end PropertyKeys.Unicode
