import Chip8.CallStack
import Chip8.Instruction.Basic
import Chip8.Keypad
import Chip8.Memory
import Chip8.Picture
import Chip8.Timer

/-!
# The machine

Everything that a running program can change. A reset replaces the machine as a whole, and a
snapshot is a copy of it.
-/

namespace Chip8

open Text

/-- What the machine is doing. -/
inductive RunState where
  /-- It executes one instruction after the other. -/
  | running
  /-- It waits until a key is struck. -/
  | awaitingKey
  /-- It has stopped for good at a fault. -/
  | halted (fault : Fault)
  deriving DecidableEq, Repr

/-- The name of what the machine is doing. -/
def RunState.name : RunState → String
  | .running => "running"
  | .awaitingKey => "waiting_for_key"
  | .halted _ => "halted"

/-- The pixels of a screen, 64 columns by 32 rows. -/
abbrev Screen := Picture 64 32

/-- A screen has columns. -/
instance Screen.positive_width : Cyclic.Positive 64 := ⟨by decide⟩

/-- A screen has rows. -/
instance Screen.positive_height : Cyclic.Positive 32 := ⟨by decide⟩

/-- The state of the machine. -/
structure Machine where
  memory : Memory := Memory.initial
  registers : Registers := {}
  stack : CallStack 16 := {}
  delay : Timer := {}
  sound : Timer := {}
  screen : Screen := Picture.blank 64 32
  keypad : Keypad := {}
  runState : RunState := .running
  /-- The register for the key of the wait in progress, or of the last one. -/
  keyRegister : Register := Nibble.zero
  /-- The fault that stopped the machine last. -/
  fault : Option Fault := none
  deriving DecidableEq

namespace Machine

/-- The machine after a power-up. -/
def initial : Machine := {}

/-- Whether the machine has stopped at a fault. -/
def isHalted (m : Machine) : Bool :=
  match m.runState with
  | .halted _ => true
  | _ => false

/-- Whether the machine waits for a key. -/
def isAwaitingKey (m : Machine) : Bool :=
  match m.runState with
  | .awaitingKey => true
  | _ => false

/-- One tick of the sixty-hertz clock, which both timers share. -/
def tick (m : Machine) : Machine :=
  { m with delay := m.delay.tick, sound := m.sound.tick }

/-- A key goes down. -/
def keyDown (m : Machine) (k : Int) : Machine :=
  { m with keypad := m.keypad.press k }

/-- A key goes up. -/
def keyUp (m : Machine) (k : Int) : Machine :=
  { m with keypad := m.keypad.release k }

/-- The state of the machine but for memory and screen, on two lines. -/
def status (m : Machine) : String :=
  s!"STATE:{m.runState.name} | {m.registers.text}\n" ++
    s!"{m.stack.text} | DT:{m.delay.value.toNat} ST:{m.sound.value.toNat} | {m.keypad.text}"

end Machine

end Chip8
