import Chip8.Report

/-!
# Effects

What the host makes visible and audible, in the order in which it does.
-/

namespace Chip8

/-- A call on the sound device. -/
inductive SoundCall where
  /-- Plays the tone over and over. -/
  | play
  | stop
  deriving DecidableEq, Repr

/-- Something that can be noticed from outside. -/
inductive Effect where
  | report (report : Report)
  /-- The window gets a new caption. -/
  | caption (text : String)
  | sound (call : SoundCall)
  /-- The host waits for the next beat of a clock of so many beats per second. -/
  | pace (rate : Nat)
  /-- The window is closed. -/
  | close
  deriving DecidableEq, Repr

end Chip8
