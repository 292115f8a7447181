import Chip8.Text.Hex

/-!
# Faults

A fault ends the running program. Each cause carries the numbers that its message reports.
-/

namespace Chip8

open Text

/-- The ways in which the machine refuses to go on. -/
inductive Fault where
  /-- A program of `size` bytes does not fit where at most `limit` do. -/
  | romTooLarge (size limit : Int)
  /-- The word fetched at `pc` is no instruction. -/
  | invalidOpcode (opcode pc : Int)
  /-- A call would nest `depth` deep, which is more than the stack holds. -/
  | stackOverflow (depth : Int)
  /-- A return finds no return address. -/
  | stackUnderflow
  /-- An access reaches `address`, which lies outside memory. -/
  | outOfBounds (address : Int)
  deriving DecidableEq, Repr

/-- The fault in words. -/
def Fault.message : Fault → String
  | .romTooLarge size limit => s!"ROM is {size} bytes, at most {limit} fit in memory"
  | .invalidOpcode opcode pc => s!"Invalid opcode ${hex 4 opcode} at ${hex 3 pc}"
  | .stackOverflow depth => s!"Call stack overflow (depth {depth})"
  | .stackUnderflow => "Return with an empty call stack"
  | .outOfBounds address => s!"Memory access out of bounds: ${hex 1 address}"

end Chip8
