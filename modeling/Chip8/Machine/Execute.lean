import Chip8.Machine.Alu
import Chip8.Machine.Basic

/-!
# Executing an instruction

What an instruction makes of the machine, all at once. An instruction that faults yields no machine
at all. The program counter moves with the other effects: to the next instruction, to the one behind
it after a skip, or to wherever a jump leads.
-/

namespace Chip8

/-- Whether a condition holds. -/
def Machine.satisfies (m : Machine) : Condition → Bool
  | .equalsByte x byte => m.registers.get x == byte
  | .differsFromByte x byte => m.registers.get x != byte
  | .equals x y => m.registers.get x == m.registers.get y
  | .differs x y => m.registers.get x != m.registers.get y
  | .keyDown x => m.keypad.isPressed (m.registers.get x).toNat
  | .keyUp x => !m.keypad.isPressed (m.registers.get x).toNat

namespace Machine

/-- The program counter as a number. -/
def pc (m : Machine) : Int :=
  m.registers.pc.toNat

/-- The address behind the instruction at the program counter. -/
def nextPC (m : Machine) : Int :=
  m.pc + 2

/-- Continues at an address. -/
def goTo (m : Machine) (address : Int) : Machine :=
  { m with registers := m.registers.setPC address }

/-- Continues with the next instruction. -/
def advance (m : Machine) : Machine :=
  m.goTo m.nextPC

/-- Continues behind the next instruction. -/
def advanceTwice (m : Machine) : Machine :=
  m.goTo (m.pc + 4)

/-- Replaces the contents of a register. -/
def setRegister (m : Machine) (x : Register) (byte : UInt8) : Machine :=
  { m with registers := m.registers.set x byte }

/-- Replaces the index register. -/
def setIndex (m : Machine) (value : Int) : Machine :=
  { m with registers := m.registers.setIndex value }

/-- Where the block of memory begins that the index register points at: its low twelve bits. -/
def blockStart (m : Machine) : Nat :=
  m.registers.index.toNat % 4096

/-- Moves the index register behind a block of registers, where the dialect wants it. -/
def passBlock (m : Machine) (d : Dialect) (x : Register) : Machine :=
  if d.blockMovesIndex then m.setIndex (m.registers.index.toNat + (x + 1 : Nat)) else m

/-- The decimal digits of a byte, hundreds first. -/
def decimalDigits (byte : UInt8) : List UInt8 :=
  [byte / 100, byte / 10 % 10, byte % 10]

/-- Where a jump by an offset leads. -/
def offsetTarget (m : Machine) (d : Dialect) (base : Address) : Int :=
  let x : Register := if d.jumpsByNamed then Nibble.ofNat (base / 256) else Nibble.zero
  base.val + (m.registers.get x).toNat

/-- Adds a register to the index register. -/
def addIndex (m : Machine) (d : Dialect) (x : Register) : Machine :=
  let total := m.registers.index.toNat + (m.registers.get x).toNat
  let moved := m.setIndex total
  if d.indexSetsFlag then moved.setRegister Register.flag (flagOf (0xFFF < total)) else moved

/-- Whether a sprite at the point that two bytes give collides with what the screen shows. -/
def spriteCollides (m : Machine) (column row : UInt8) (rows : List UInt8) : Bool :=
  m.screen.collides (Int64.ofNat column.toNat) (Int64.ofNat row.toNat) rows

/-- Puts a sprite on the screen at the point that two bytes give. -/
def paintSprite (m : Machine) (column row : UInt8) (rows : List UInt8) : Machine :=
  { m with screen := m.screen.draw (Int64.ofNat column.toNat) (Int64.ofNat row.toNat) rows }

/-- Draws a sprite at the point that two registers give, and enters in the flag whether it
collides. -/
def drawSprite (m : Machine) (x y : Register) (rows : List UInt8) : Machine :=
  let column := m.registers.get x
  let row := m.registers.get y
  let collides := m.spriteCollides column row rows
  (m.paintSprite column row rows).setRegister Register.flag (flagOf (collides = true))

/-- Begins to wait for a key that is to be stored in a register. -/
def awaitKey (m : Machine) (x : Register) : Machine :=
  { m with keypad := m.keypad.beginWait, keyRegister := x, runState := .awaitingKey }

/-- The machine after an instruction. `chance` is the byte that a random number is taken from. -/
def execute (m : Machine) (d : Dialect) (chance : UInt8) : Instruction → Except Fault Machine
  | .clear => .ok { m with screen := Picture.blank 64 32 }.advance
  | .ret => m.stack.pop.map fun (address, stack) => { m with stack := stack }.goTo address
  | .hostRoutine _ => .ok m.advance
  | .jump target => .ok (m.goTo target.val)
  | .call target => (m.stack.push m.nextPC).map fun stack =>
      { m with stack := stack }.goTo target.val
  | .jumpOffset base => .ok (m.goTo (m.offsetTarget d base))
  | .skip condition => .ok (if m.satisfies condition then m.advanceTwice else m.advance)
  | .loadByte x byte => .ok (m.setRegister x byte).advance
  | .addByte x byte => .ok (m.setRegister x (m.registers.get x + byte)).advance
  | .alu op x y => .ok { m with registers := m.registers.operate d op x y }.advance
  | .random x mask => .ok (m.setRegister x (chance &&& mask)).advance
  | .setIndex address => .ok (m.setIndex address.val).advance
  | .addIndex x => .ok (m.addIndex d x).advance
  | .pointAtGlyph x =>
      .ok (m.setIndex (Font.glyphAddress (m.registers.get x).toNat)).advance
  | .storeDecimal x =>
      (m.memory.writeBytes m.blockStart (decimalDigits (m.registers.get x))).map fun memory =>
        { m with memory := memory }.advance
  | .storeRegisters x =>
      (m.memory.writeBytes m.blockStart (m.registers.firstThrough x)).map fun memory =>
        ({ m with memory := memory }.passBlock d x).advance
  | .loadRegisters x =>
      (m.memory.readBlock m.blockStart (x + 1 : Nat)).map fun bytes =>
        ({ m with registers := m.registers.setFirst bytes }.passBlock d x).advance
  | .draw x y rows =>
      (m.memory.readBlock m.blockStart rows.val).map fun bytes => (m.drawSprite x y bytes).advance
  | .awaitKey x => .ok (m.awaitKey x)
  | .readDelay x => .ok (m.setRegister x m.delay.value).advance
  | .setDelay x => .ok { m with delay := ⟨m.registers.get x⟩ }.advance
  | .setSound x => .ok { m with sound := ⟨m.registers.get x⟩ }.advance

end Machine

end Chip8
