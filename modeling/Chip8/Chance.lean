/-!
# Random bytes

An endless sequence of bytes that look random, fixed by a seed. Every byte is computed on its own
from its place in the sequence.
-/

namespace Chip8.Chance

/-- Spreads the bits of a word so that neighbouring words have little in common. -/
def mix (w : UInt64) : UInt64 :=
  let a := (w ^^^ (w >>> 30)) * 0xBF58476D1CE4E5B9
  let b := (a ^^^ (a >>> 27)) * 0x94D049BB133111EB
  b ^^^ (b >>> 31)

/-- The byte at a place of the sequence. -/
def byte (seed : UInt64) (k : Nat) : UInt8 :=
  (mix (seed + UInt64.ofNat (k + 1) * 0x9E3779B97F4A7C15)).toUInt8

end Chip8.Chance
