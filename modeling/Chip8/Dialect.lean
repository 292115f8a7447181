/-!
# Dialects

Programs were written for interpreters that disagree on a few instructions. A dialect settles every
point of disagreement.
-/

namespace Chip8

/-- The choices that a program may depend on. The defaults are those of the first interpreter. -/
structure Dialect where
  /-- The bitwise operations clear the flag. -/
  bitwiseClearsFlag : Bool := true
  /-- Shifts take the second register, not the first. -/
  shiftsSecond : Bool := true
  /-- Storing or loading a block of registers leaves the index register behind the block. -/
  blockMovesIndex : Bool := true
  /-- A jump by an offset takes the register named in its address, not `V0`. -/
  jumpsByNamed : Bool := false
  /-- Adding to the index register sets the flag when it leaves memory. -/
  indexSetsFlag : Bool := false
  deriving DecidableEq, Repr

namespace Dialect

/-- The dialect of the first interpreter. -/
def classic : Dialect := {}

/-- The dialect that most later programs are written for. -/
def modern : Dialect where
  bitwiseClearsFlag := false
  shiftsSecond := false
  blockMovesIndex := false
  jumpsByNamed := true
  indexSetsFlag := true

/-- The dialect of a given name. -/
def named? : String → Option Dialect
  | "chip8" => some classic
  | "modern" => some modern
  | _ => none

/-- The names of all dialects. -/
def names : List String := ["chip8", "modern"]

end Dialect

end Chip8
