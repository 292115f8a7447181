/-!
# The built-in font

Sixteen glyphs for the hexadecimal digits, each four pixels wide and five rows high. A row is the
upper half of one byte.
-/

namespace Chip8.Font

/-- Where the first glyph lies in memory. -/
def address : Nat := 0

/-- The number of rows of a glyph. -/
def glyphSize : Nat := 5

/-- The rows of all glyphs, in the order of their digits. -/
def glyphs : List UInt8 := [
  0xF0, 0x90, 0x90, 0x90, 0xF0,
  0x20, 0x60, 0x20, 0x20, 0x70,
  0xF0, 0x10, 0xF0, 0x80, 0xF0,
  0xF0, 0x10, 0xF0, 0x10, 0xF0,
  0x90, 0x90, 0xF0, 0x10, 0x10,
  0xF0, 0x80, 0xF0, 0x10, 0xF0,
  0xF0, 0x80, 0xF0, 0x90, 0xF0,
  0xF0, 0x10, 0x20, 0x40, 0x40,
  0xF0, 0x90, 0xF0, 0x90, 0xF0,
  0xF0, 0x90, 0xF0, 0x10, 0xF0,
  0xF0, 0x90, 0xF0, 0x90, 0x90,
  0xE0, 0x90, 0xE0, 0x90, 0xE0,
  0xF0, 0x80, 0x80, 0x80, 0xF0,
  0xE0, 0x90, 0x90, 0x90, 0xE0,
  0xF0, 0x80, 0xF0, 0x80, 0xF0,
  0xF0, 0x80, 0xF0, 0x80, 0x80]

/-- The address of the glyph for the low four bits of an integer. -/
def glyphAddress (digit : Int) : Nat :=
  address + (digit % 16).toNat * glyphSize

end Chip8.Font
