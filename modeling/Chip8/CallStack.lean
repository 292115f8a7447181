import Chip8.Fault

/-!
# Call stack

Return addresses, the last one on top, up to a fixed depth that is part of the type. Addresses are
kept as whole numbers: the address behind the last word of memory is not cut to sixteen bits here.
-/

namespace Chip8

open Text

/-- A stack of at most `capacity` return addresses, top first. -/
structure CallStack (capacity : Nat) where
  frames : List Int := []
  deriving DecidableEq

namespace CallStack

variable {capacity : Nat}

/-- The number of addresses on the stack. -/
def depth (s : CallStack capacity) : Nat :=
  s.frames.length

/-- The addresses from the oldest to the newest. -/
def addresses (s : CallStack capacity) : List Int :=
  s.frames.reverse

/-- The stack with one more address, unless it is full. -/
def push (s : CallStack capacity) (address : Int) : Except Fault (CallStack capacity) :=
  if capacity ≤ s.depth then .error (.stackOverflow (s.depth + 1))
  else .ok ⟨address :: s.frames⟩

/-- The newest address and the stack without it, unless there is none. -/
def pop (s : CallStack capacity) : Except Fault (Int × CallStack capacity) :=
  match s.frames with
  | [] => .error .stackUnderflow
  | address :: rest => .ok (address, ⟨rest⟩)

/-- All addresses on one line. -/
def text (s : CallStack capacity) : String :=
  "CallStack(" ++ ", ".intercalate (s.addresses.map fun a => s!"${hex 3 a}") ++ ")"

end CallStack

end Chip8
