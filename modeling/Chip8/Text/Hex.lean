/-!
# Hexadecimal text

Numbers are written in upper-case base sixteen. A minus sign stands before the digits of a
negative number and counts as one column of the requested width, so every text is at least as
wide as asked.
-/

namespace Chip8.Text

/-- The digits of a number in base sixteen, most significant first. -/
def hexDigits (n : Nat) : List Char :=
  (Nat.toDigits 16 n).map Char.toUpper

/-- An integer in base sixteen, filled with zeros up to `width` columns, sign included. -/
def hex (width : Nat) (n : Int) : String :=
  if n < 0 then
    String.ofList ('-' :: (hexDigits n.natAbs).leftpad (width - 1) '0')
  else
    String.ofList ((hexDigits n.natAbs).leftpad width '0')

/-- A byte as two digits. -/
def hexByte (b : UInt8) : String :=
  hex 2 b.toNat

end Chip8.Text
