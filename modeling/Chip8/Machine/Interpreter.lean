import Chip8.Machine.Work
import Chip8.Report

/-!
# The interpreter

The host drives an interpreter in two cadences, steps and ticks; a frame is a number of steps and
one tick.
-/

namespace Chip8

/-- What an instruction reports when it is executed. -/
def Instruction.reports : Instruction → List Report
  | .awaitKey x => [.awaitingKey x]
  | _ => []

/-- What an operation on an interpreter amounts to: an answer or a fault, and in both cases the
interpreter afterwards and the reports made on the way. -/
structure Outcome (ε α : Type) where
  answer : Except ε α
  interpreter : Interpreter
  reports : List Report := []

namespace Interpreter

/-- Executes an instruction out of turn: whatever the machine is doing, and without a halt if it
faults. -/
def perform (i : Interpreter) (instruction : Instruction) : Outcome Fault Unit :=
  match (Work.carryOut instruction).run i with
  | .error fault left => { answer := .error fault, interpreter := left }
  | .ok () next => { answer := .ok (), interpreter := next, reports := instruction.reports }

/-! ### Looking at the program -/

/-- The word at the program counter. -/
def fetch (i : Interpreter) : Except Fault Word :=
  let pc := i.machine.pc
  match i.machine.memory.read pc with
  | .error fault => .error fault
  | .ok high =>
    match i.machine.memory.read (pc + 1) with
    | .error fault => .error fault
    | .ok low => .ok (high.toUInt16 <<< 8 ||| low.toUInt16)

/-- The word at the program counter, unless the program counter lies beyond the last word. -/
def peekWord (i : Interpreter) : Option Word :=
  let pc := i.machine.registers.pc.toNat
  if 4094 < pc then none
  else some
    ((i.machine.memory.byteAt pc).toUInt16 <<< 8 ||| (i.machine.memory.byteAt (pc + 1)).toUInt16)

/-- The instruction at the program counter with the word that stands for it. -/
def peek (i : Interpreter) : Except Fault (Word × Instruction) :=
  match i.fetch with
  | .error fault => .error fault
  | .ok word => (Instruction.decode word i.machine.pc).map fun instruction => (word, instruction)

/-! ### Steps and frames -/

/-- Stops the machine at a fault of the instruction at `pc`. -/
def halt (i : Interpreter) (pc : UInt16) (fault : Fault) (reports : List Report) :
    Outcome Fault RunState where
  answer := .error fault
  interpreter := i.onMachine fun m => { m with runState := .halted fault, fault := some fault }
  reports := reports ++ [.halted pc fault]

/-- Executes the instruction at the program counter, or stops the machine, in whatever state the
instruction left it, at the fault. -/
def stepRunning (i : Interpreter) : Outcome Fault RunState :=
  let pc := i.machine.registers.pc
  match i.peek with
  | .error fault => i.halt pc fault []
  | .ok (word, instruction) =>
    let executing := Report.executing pc word instruction
    match (Work.carryOut instruction).run i with
    | .error fault left => left.halt pc fault [executing]
    | .ok () next =>
      { answer := .ok next.machine.runState
        interpreter := next
        reports := executing :: instruction.reports }

/-- Ends the wait for a key. -/
def storeKey (m : Machine) (key : Key) : Machine :=
  let woken := m.setRegister m.keyRegister (UInt8.ofNat key)
  { woken with keypad := m.keypad.endWait, runState := .running }.advance

/-- Looks whether a key has been struck, and if so ends the wait. -/
def stepAwaitingKey (i : Interpreter) : Outcome Fault RunState :=
  match i.machine.keypad.newlyPressed with
  | none => { answer := .ok i.machine.runState, interpreter := i }
  | some key =>
    { answer := .ok .running
      interpreter := i.onMachine (storeKey · key)
      reports := [.keyStored key i.machine.keyRegister] }

/-- One step: an instruction, a look at the keypad during a wait, or the same fault again. -/
def step (i : Interpreter) : Outcome Fault RunState :=
  match i.machine.runState with
  | .halted fault => { answer := .error fault, interpreter := i }
  | .awaitingKey => i.stepAwaitingKey
  | .running => i.stepRunning

/-- So many steps, fewer if one faults. `past` holds the reports made before, newest first. -/
def stepsAfter (past : List Report) : Nat → Interpreter → Outcome Fault Unit
  | 0, i => { answer := .ok (), interpreter := i, reports := past.reverse }
  | n + 1, i =>
    let o := i.step
    let reports := o.reports.reverse ++ past
    match o.answer with
    | .error fault =>
      { answer := .error fault, interpreter := o.interpreter, reports := reports.reverse }
    | .ok _ => stepsAfter reports n o.interpreter

/-- So many steps, fewer if one faults. -/
def steps (i : Interpreter) (n : Nat) : Outcome Fault Unit :=
  stepsAfter [] n i

/-- One tick of the sixty-hertz clock. -/
def tick (i : Interpreter) : Interpreter :=
  i.onMachine Machine.tick

/-- A frame: so many steps, then a tick. A fault ends the frame before its tick. -/
def frame (i : Interpreter) (cycles : Int) : Outcome Fault RunState :=
  let o := i.steps cycles.toNat
  match o.answer with
  | .error fault => { answer := .error fault, interpreter := o.interpreter, reports := o.reports }
  | .ok () =>
    let next := o.interpreter.tick
    { answer := .ok next.machine.runState, interpreter := next, reports := o.reports }

/-! ### Beginning anew -/

/-- Puts a machine in place of the present one. -/
def replaceMachine (i : Interpreter) (machine : Machine) : Interpreter :=
  { i with machine := machine, redraw := true }

/-- Replaces the machine by a fresh one. -/
def reset (i : Interpreter) : Outcome Fault Unit where
  answer := .ok ()
  interpreter := i.replaceMachine Machine.initial
  reports := [.reset]

/-- Replaces the machine by a fresh one with a program in memory; a program that is too long
changes nothing. -/
def load (i : Interpreter) (program : List UInt8) : Outcome Fault Unit :=
  match Machine.initial.memory.loadProgram program with
  | .error fault => { answer := .error fault, interpreter := i }
  | .ok memory =>
    { answer := .ok ()
      interpreter := i.replaceMachine { Machine.initial with memory := memory }
      reports := [.reset, .programLoaded program.length] }

end Interpreter

/-- A copy of a machine to come back to. -/
structure Snapshot where
  machine : Machine

namespace Interpreter

/-- A copy of the machine as it is now. -/
def snapshot (i : Interpreter) : Snapshot :=
  ⟨i.machine⟩

/-- The machine of a snapshot under the keypad that is there now. A wait for a key begins anew. -/
def resumed (s : Snapshot) (keypad : Keypad) : Machine :=
  { s.machine with keypad := if s.machine.isAwaitingKey then keypad.beginWait else keypad }

/-- Comes back to a snapshot. -/
def restore (i : Interpreter) (s : Snapshot) : Outcome Fault Unit where
  answer := .ok ()
  interpreter := i.replaceMachine (resumed s i.machine.keypad)
  reports := [.restored s.machine.registers.pc]

end Interpreter

end Chip8
