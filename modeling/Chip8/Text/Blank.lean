/-!
# Blanks

Two classes of characters that may surround a value without being part of it: the white space of
Unicode, and the wider class of blanks, which adds the four information separators.
-/

namespace Chip8.Text

/-- Whether the character is white space in Unicode. -/
def isWhite (c : Char) : Bool :=
  let n := c.toNat
  (0x9 ≤ n && n ≤ 0xd) || n == 0x20 || n == 0x85 || n == 0xa0 || n == 0x1680 ||
    (0x2000 ≤ n && n ≤ 0x200a) || n == 0x2028 || n == 0x2029 || n == 0x202f || n == 0x205f ||
    n == 0x3000

/-- Whether the character is white space or an information separator. -/
def isBlank (c : Char) : Bool :=
  isWhite c || (0x1c ≤ c.toNat && c.toNat ≤ 0x1f)

/-- The characters left when those of a class are taken away at both ends. -/
def strip (inClass : Char → Bool) (cs : List Char) : List Char :=
  ((cs.dropWhile inClass).reverse.dropWhile inClass).reverse

end Chip8.Text
