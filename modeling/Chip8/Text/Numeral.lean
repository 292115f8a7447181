import Chip8.Text.Blank
import Chip8.Text.DecimalDigit

/-!
# Numerals

Whole numbers as a person types them: white space around, one optional sign, then decimal digits of
any script, with single underscores allowed between two digits.
-/

namespace Chip8.Text

/-- A numeral with more digits than this is refused. -/
def numeralDigitLimit : Nat := 4300

/-- The digit values of a run of digits in which single underscores may stand between two digits.
`digitBefore` says whether a digit has just been read. -/
def numeralDigits (digitBefore : Bool) : List Char → Option (List Nat)
  | [] => if digitBefore then some [] else none
  | c :: cs =>
    if c == '_' then
      if digitBefore then numeralDigits false cs else none
    else
      match digitValue? c with
      | some d => (numeralDigits true cs).map (d :: ·)
      | none => none

/-- The number that a run of digits denotes. -/
def unsignedNumeral? (cs : List Char) : Option Nat :=
  match numeralDigits false cs with
  | some ds =>
    if ds.length ≤ numeralDigitLimit then some (ds.foldl (fun n d => 10 * n + d) 0) else none
  | none => none

/-- The whole number that a text denotes, if it is a numeral. -/
def numeral? (s : String) : Option Int :=
  match strip isWhite s.toList with
  | '-' :: cs => (unsignedNumeral? cs).map fun n => -(n : Int)
  | '+' :: cs => (unsignedNumeral? cs).map Int.ofNat
  | cs => (unsignedNumeral? cs).map Int.ofNat

end Chip8.Text
