/-!
# Blank and control characters

Two small classes: the white space of Unicode, and the characters of general category Cc. Both
lists are closed by the standard's stability policy for controls and have not changed for white
space since Unicode 6.3.
-/

set_option autoImplicit false

namespace LinkLedger.Unicode

/-- Whether a character has the property White_Space. -/
def isBlank (c : Char) : Bool :=
  let n := c.toNat
  (9 ≤ n && n ≤ 13) || n == 0x20 || n == 0x85 || n == 0xA0 || n == 0x1680
    || (0x2000 ≤ n && n ≤ 0x200A) || n == 0x2028 || n == 0x2029 || n == 0x202F || n == 0x205F
    || n == 0x3000

/-- Whether a character is a control: below the space, the delete character, or from U+0080 to
U+009F. -/
def isControl (c : Char) : Bool := c.toNat < 0x20 || (0x7F ≤ c.toNat && c.toNat < 0xA0)

end LinkLedger.Unicode
