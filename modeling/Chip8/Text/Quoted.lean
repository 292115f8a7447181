import Chip8.Text.Printable

/-!
# Quoted text

A text is quoted for a message by enclosing it in single quotes, or in double quotes when it holds
single quotes and no double ones. Backslashes and the enclosing quote are escaped, and so is every
character that is not printable.
-/

namespace Chip8.Text

/-- A number in lower-case base sixteen, filled with zeros up to `width` digits. -/
def escapeDigits (width n : Nat) : List Char :=
  (Nat.toDigits 16 n).leftpad width '0'

/-- The quote that encloses a text. -/
def enclosingQuote (cs : List Char) : Char :=
  if cs.contains '\'' && !cs.contains '"' then '"' else '\''

/-- One character of a quoted text; an unprintable one takes the shortest escape that can hold
its code point. -/
def escapeChar (quote c : Char) : List Char :=
  if c == quote || c == '\\' then ['\\', c]
  else if c == '\t' then ['\\', 't']
  else if c == '\n' then ['\\', 'n']
  else if c == '\r' then ['\\', 'r']
  else if isPrintable c then [c]
  else if c.toNat ≤ 0xff then '\\' :: 'x' :: escapeDigits 2 c.toNat
  else if c.toNat ≤ 0xffff then '\\' :: 'u' :: escapeDigits 4 c.toNat
  else '\\' :: 'U' :: escapeDigits 8 c.toNat

/-- The text between quotes, with all that needs it escaped. -/
def quoted (s : String) : String :=
  let quote := enclosingQuote s.toList
  String.ofList (quote :: s.toList.flatMap (escapeChar quote) ++ [quote])

end Chip8.Text
