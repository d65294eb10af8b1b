import Colloquy.Text.Range

namespace Colloquy.Text

/-!
# Blank characters

A character is blank when it has the Unicode property White_Space. Words are
separated by blank characters everywhere in this library.
-/

/-- Ranges of the property White_Space, ascending. -/
def blankRanges : List (Nat × Nat) := [
  (0x9, 0xD), (0x20, 0x20), (0x85, 0x85), (0xA0, 0xA0), (0x1680, 0x1680), (0x2000, 0x200A),
  (0x2028, 0x2029), (0x202F, 0x202F), (0x205F, 0x205F), (0x3000, 0x3000)]

/-- The character separates words. -/
def isBlank (c : Char) : Bool :=
  inRanges blankRanges c.toNat

end Colloquy.Text
