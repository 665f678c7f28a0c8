/-!
# Blank characters

The characters that may stand between the tokens of a message: those with the Unicode property
`White_Space`, and the four information separators U+001C to U+001F.

* `isBlank` decides whether a character is blank.
-/

namespace FlatJson

/-- The code point is that of a blank character. -/
def isBlankCode (n : Nat) : Bool :=
  (0x9 ≤ n && n ≤ 0xd) || (0x1c ≤ n && n ≤ 0x20) || n == 0x85 || n == 0xa0 || n == 0x1680 ||
    (0x2000 ≤ n && n ≤ 0x200a) || (0x2028 ≤ n && n ≤ 0x2029) || n == 0x202f || n == 0x205f ||
    n == 0x3000

/-- The character is blank. -/
def isBlank (c : Char) : Bool := isBlankCode c.toNat

end FlatJson
