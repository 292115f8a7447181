import Chip8.Machine.Execute

/-!
# Working off an instruction

An interpreter is a machine together with what outlives its resets: the dialect, the source of
random bytes with the number of bytes taken from it, and the mark that the screen has to be shown
again. It works an instruction off write by write: the checks, reads and stores follow one another,
and the program counter moves last. A fault ends the work where it arises, and nothing that was
written before is taken back.
-/

namespace Chip8

/-- A machine and what it runs on. -/
structure Interpreter where
  dialect : Dialect := {}
  /-- The random bytes in the order in which they are taken. -/
  chance : Nat → UInt8 := fun _ => 0
  /-- The number of random bytes taken so far. -/
  taken : Nat := 0
  machine : Machine := Machine.initial
  /-- Whether the screen has to be shown again. -/
  redraw : Bool := false

/-- Applies a change to the machine alone. -/
def Interpreter.onMachine (i : Interpreter) (f : Machine → Machine) : Interpreter :=
  { i with machine := f i.machine }

/-- A piece of work on an interpreter. What is written before a fault stays written. -/
abbrev Work := EStateM Fault Interpreter

namespace Work

variable {α : Type}

/-- The machine as it is at this point. -/
def machine : Work Machine := do
  return (← get).machine

/-- The dialect. -/
def dialect : Work Dialect := do
  return (← get).dialect

/-- Applies a change to the machine. -/
def change (f : Machine → Machine) : Work Unit :=
  modify fun i => i.onMachine f

/-- Goes on with an answer; a fault ends the work. -/
def demand : Except Fault α → Work α
  | .ok answer => pure answer
  | .error fault => throw fault

/-- The contents of a register. -/
def load (x : Register) : Work UInt8 := do
  return (← machine).registers.get x

/-- Replaces the contents of a register. -/
def store (x : Register) (byte : UInt8) : Work Unit :=
  change fun m => m.setRegister x byte

/-- Replaces the flag, if there is one to store. -/
def storeFlag : Option UInt8 → Work Unit
  | some flag => store Register.flag flag
  | none => pure ()

/-- Replaces the contents of registers one after the other, until the bytes run out. -/
def storeEach : List Register → List UInt8 → Work Unit
  | x :: xs, byte :: bytes => do
    store x byte
    storeEach xs bytes
  | _, _ => pure ()

/-- Replaces the index register. -/
def storeIndex (value : Int) : Work Unit :=
  change fun m => m.setIndex value

/-- Replaces the call stack. -/
def storeStack (stack : CallStack 16) : Work Unit :=
  change fun m => { m with stack := stack }

/-- The bytes of the block that the index register points at. -/
def readBlock (length : Nat) : Work (List UInt8) := do
  let m ← machine
  demand (m.memory.readBlock m.blockStart length)

/-- Writes bytes to the block that the index register points at. -/
def writeBlock (bytes : List UInt8) : Work Unit := do
  let m ← machine
  let memory ← demand (m.memory.writeBytes m.blockStart bytes)
  change fun m => { m with memory := memory }

/-- Moves the index register behind a block of registers, where the dialect wants it. -/
def passBlock (x : Register) : Work Unit := do
  let d ← dialect
  change fun m => m.passBlock d x

/-- Takes the next random byte. -/
def takeByte : Work UInt8 :=
  modifyGet fun i => (i.chance i.taken, { i with taken := i.taken + 1 })

/-- Marks the screen to be shown again. -/
def markScreen : Work Unit :=
  modify fun i => { i with redraw := true }

/-- Draws a sprite, and tells whether it collides. -/
def drawSprite (column row : UInt8) (rows : List UInt8) : Work Bool := do
  let m ← machine
  change fun m => m.paintSprite column row rows
  return m.spriteCollides column row rows

/-- Does all that the instruction at the address `here` asks for but to go on, and tells where the
program goes on. -/
def effect (here : Int) : Instruction → Work Int
  | .clear => do
    change fun m => { m with screen := Picture.blank 64 32 }
    markScreen
    return here + 2
  | .ret => do
    let (address, stack) ← demand (← machine).stack.pop
    storeStack stack
    return address
  | .hostRoutine _ => return here + 2
  | .jump target => return target.val
  | .call target => do
    let stack ← demand ((← machine).stack.push (here + 2))
    storeStack stack
    return target.val
  | .jumpOffset base => return (← machine).offsetTarget (← dialect) base
  | .skip condition => return if (← machine).satisfies condition then here + 4 else here + 2
  | .loadByte x byte => do
    store x byte
    return here + 2
  | .addByte x byte => do
    store x ((← load x) + byte)
    return here + 2
  | .alu op x y => do
    let result := op.result (← dialect) (← load x) (← load y)
    store x result.value
    storeFlag result.flag
    return here + 2
  | .random x mask => do
    store x ((← takeByte) &&& mask)
    return here + 2
  | .setIndex address => do
    storeIndex address.val
    return here + 2
  | .addIndex x => do
    let total := (← machine).registers.index.toNat + (← load x).toNat
    storeIndex total
    if (← dialect).indexSetsFlag then
      store Register.flag (flagOf (0xFFF < total))
    return here + 2
  | .pointAtGlyph x => do
    storeIndex (Font.glyphAddress (← load x).toNat)
    return here + 2
  | .storeDecimal x => do
    writeBlock (Machine.decimalDigits (← load x))
    return here + 2
  | .storeRegisters x => do
    writeBlock ((← machine).registers.firstThrough x)
    passBlock x
    return here + 2
  | .loadRegisters x => do
    let bytes ← readBlock (x + 1)
    storeEach (List.finRange 16) bytes
    passBlock x
    return here + 2
  | .draw x y rows => do
    let bytes ← readBlock rows
    let collides ← drawSprite (← load x) (← load y) bytes
    store Register.flag (flagOf (collides = true))
    markScreen
    return here + 2
  | .awaitKey x => do
    change fun m => { m with keypad := m.keypad.beginWait }
    change fun m => { m with keyRegister := x }
    change fun m => { m with runState := .awaitingKey }
    return here
  | .readDelay x => do
    store x (← machine).delay.value
    return here + 2
  | .setDelay x => do
    let byte ← load x
    change fun m => { m with delay := ⟨byte⟩ }
    return here + 2
  | .setSound x => do
    let byte ← load x
    change fun m => { m with sound := ⟨byte⟩ }
    return here + 2

/-- Works an instruction off and goes on to where it leads. -/
def carryOut (instruction : Instruction) : Work Unit := do
  let target ← effect (← machine).pc instruction
  change fun m => m.goTo target

end Work

end Chip8
