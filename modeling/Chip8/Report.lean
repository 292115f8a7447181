import Chip8.Instruction.Text
import Chip8.Keypad

/-!
# Reports

What the machine and its host tell whoever keeps a log. A report is kept as data; its level, the
part of the program it comes from and its text are functions of it.
-/

namespace Chip8

open Text

/-- How much a report matters. -/
inductive Level where
  | debug
  | info
  | warning
  | error
  deriving DecidableEq, Repr

namespace Level

/-- The name of a level. -/
def name : Level → String
  | .debug => "DEBUG"
  | .info => "INFO"
  | .warning => "WARNING"
  | .error => "ERROR"

/-- The place of a level in the order of importance. -/
def rank : Level → Nat
  | .debug => 10
  | .info => 20
  | .warning => 30
  | .error => 40

/-- Whether a level is shown when `threshold` is the least that is. -/
def reaches (level threshold : Level) : Bool :=
  threshold.rank ≤ level.rank

end Level

/-- The part of the program that a report comes from. -/
inductive Reporter where
  | interpreter
  | memory
  | host
  deriving DecidableEq, Repr

/-- The name under which a part of the program reports; `host` is that of the host. -/
def Reporter.name (host : String) : Reporter → String
  | .interpreter => "meowchip.cpu"
  | .memory => "meowchip.memory"
  | .host => host

/-- Something worth a line in the log. -/
inductive Report where
  /-- The machine was replaced by a fresh one. -/
  | reset
  /-- A program of so many bytes was put into memory. -/
  | programLoaded (size : Nat)
  /-- So many bytes were read from a file. -/
  | fileRead (size : Nat) (file : String)
  /-- A snapshot was restored, and execution continues at `pc`. -/
  | restored (pc : UInt16)
  /-- An instruction is about to be executed. -/
  | executing (pc : UInt16) (word : Word) (instruction : Instruction)
  /-- A wait for a key began. -/
  | awaitingKey (x : Register)
  /-- A wait for a key ended. -/
  | keyStored (key : Key) (x : Register)
  /-- The instruction at `pc` faulted. -/
  | halted (pc : UInt16) (fault : Fault)
  /-- The host saw the machine stop in the given state. -/
  | crashed (status : String)
  | snapshotSaved
  | noSnapshot
  /-- There will be no sound. -/
  | audioDisabled (reason : String)
  deriving DecidableEq, Repr

namespace Report

/-- How much a report matters. -/
def level : Report → Level
  | .halted .. | .crashed _ => .error
  | .audioDisabled _ => .warning
  | .snapshotSaved | .noSnapshot => .info
  | _ => .debug

/-- Where a report comes from. -/
def reporter : Report → Reporter
  | .programLoaded _ => .memory
  | .crashed _ | .snapshotSaved | .noSnapshot | .audioDisabled _ => .host
  | _ => .interpreter

/-- A report in words. -/
def text : Report → String
  | .reset => "Interpreter reset"
  | .programLoaded size => s!"Loaded {size} byte ROM at $200"
  | .fileRead size file => s!"Read {size} bytes from {file}"
  | .restored pc => s!"Restored snapshot at PC ${hex 3 pc.toNat}"
  | .executing pc word instruction =>
    s!"${hex 3 pc.toNat}  {hex 4 word.toNat}  {instruction.text}"
  | .awaitingKey x => s!"Waiting for a key into {x.name}"
  | .keyStored key x => s!"Key {key.digit} stored in {x.name}, resuming"
  | .halted pc fault => s!"Interpreter halted at ${hex 3 pc.toNat}: {fault.message}"
  | .crashed status => s!"Emulator crashed with the following state\n{status}"
  | .snapshotSaved => "Snapshot saved"
  | .noSnapshot => "No snapshot to restore"
  | .audioDisabled reason => s!"Audio disabled: {reason}"

end Report

end Chip8
