import Metrology.Text.Ranges

/-!
# Blanks

The characters of white space, in every script, and the two marks of writing direction that are
left out between tokens like white space.
-/

namespace Metrology

/-- The ranges of white space. -/
def blankRanges : List (Nat × Nat) :=
  [(0x9, 0xd), (0x20, 0x20), (0x85, 0x85), (0xa0, 0xa0), (0x1680, 0x1680), (0x2000, 0x200a),
    (0x2028, 0x2029), (0x202f, 0x202f), (0x205f, 0x205f), (0x3000, 0x3000)]

/-- The marks of writing direction, from left to right and from right to left. -/
def directionMarks : List Char := ['\u200e', '\u200f']

/-- Whether the character separates tokens and means nothing else. -/
def isBlank (c : Char) : Bool := inRanges blankRanges c || directionMarks.contains c

end Metrology
