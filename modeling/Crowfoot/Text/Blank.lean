import Crowfoot.Text.CodeRange

/-!
# Blank characters

The characters with the Unicode property `White_Space`, and the removal of those that
surround a text.
-/

namespace Crowfoot.Text

/-- The code points that are blank, in ascending ranges. -/
def blankRanges : List CodeRange := [
  ⟨0x9, 0xD⟩, ⟨0x20, 0x20⟩, ⟨0x85, 0x85⟩, ⟨0xA0, 0xA0⟩, ⟨0x1680, 0x1680⟩, ⟨0x2000, 0x200A⟩,
  ⟨0x2028, 0x2029⟩, ⟨0x202F, 0x202F⟩, ⟨0x205F, 0x205F⟩, ⟨0x3000, 0x3000⟩]

/-- White space of any kind, line ends included. -/
def isBlank (c : Char) : Bool := CodeRange.covers blankRanges c.toNat

/-- A text without the blank characters at its two ends. -/
def trim (cs : List Char) : List Char :=
  ((cs.dropWhile isBlank).reverse.dropWhile isBlank).reverse

end Crowfoot.Text
