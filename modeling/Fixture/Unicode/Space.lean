import Fixture.Unicode.Intervals

/-!
# White space

The characters with the property White_Space: the blanks that may stand between the parts of a type
expression or before a number of a date.
-/

namespace Fixture.Unicode

/-- The intervals of the property White_Space. -/
def whiteSpace : Intervals := [
    (0x0009, 0x000D), (0x0020, 0x0020), (0x0085, 0x0085), (0x00A0, 0x00A0), (0x1680, 0x1680),
    (0x2000, 0x200A), (0x2028, 0x2029), (0x202F, 0x202F), (0x205F, 0x205F), (0x3000, 0x3000)]

def isSpace (c : Char) : Bool := whiteSpace.covers c.toNat

end Fixture.Unicode
