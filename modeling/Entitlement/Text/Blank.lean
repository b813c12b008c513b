import Entitlement.Text.Range

/-!
# Blanks

Two classes: the ASCII blanks, and the blanks of Unicode, which hold also the four separators
`U+001C` to `U+001F`.
-/

namespace Entitlement

namespace CodePoint

/-- Space, tab, line feed, vertical tab, form feed and carriage return. -/
def isAsciiBlank (c : CodePoint) : Bool := c.val = 0x20 || (0x09 ≤ c.val && c.val ≤ 0x0D)

def blankRanges : List (Nat × Nat) := [
  (0x9, 0xD), (0x1C, 0x20), (0x85, 0x85), (0xA0, 0xA0), (0x1680, 0x1680), (0x2000, 0x200A),
  (0x2028, 0x2029), (0x202F, 0x202F), (0x205F, 0x205F), (0x3000, 0x3000)]

def isBlank (c : CodePoint) : Bool := c.inRanges blankRanges

end CodePoint

end Entitlement
