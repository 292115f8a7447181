/-!
# Timers

A timer counts down to zero, one step for each tick of the sixty-hertz clock, and stays there.
-/

namespace Chip8

/-- An eight-bit countdown. -/
structure Timer where
  value : UInt8 := 0
  deriving DecidableEq

namespace Timer

/-- The number of ticks in a second. -/
def rate : Nat := 60

/-- A timer that starts from the low eight bits of a number. -/
def ofInt (value : Int) : Timer :=
  ⟨UInt8.ofInt value⟩

/-- One step towards zero. -/
def tick (t : Timer) : Timer :=
  if t.value = 0 then t else ⟨t.value - 1⟩

/-- Whether the timer has not run out. -/
def active (t : Timer) : Bool :=
  t.value ≠ 0

/-- The timer on one line. -/
def text (t : Timer) : String :=
  s!"Timer({t.value.toNat})"

end Timer

end Chip8
