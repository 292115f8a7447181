import Chip8.Fault
import Chip8.Instruction.Basic

/-!
# Instruction words

The sixteen-bit form of instructions. The topmost four bits of a word name its family, and the
rest holds operands: `x` and `y` are the second and third group of four bits, `n`, `nn` and `nnn`
the lowest four, eight and twelve bits. Not every word is an instruction.
-/

namespace Chip8

/-- A word of a program. -/
abbrev Word := UInt16

namespace Word

/-- The topmost four bits. -/
def family (w : Word) : Nat := w.toNat / 4096

/-- The second group of four bits, as a register. -/
def x (w : Word) : Register := Nibble.ofNat (w.toNat / 256)

/-- The third group of four bits, as a register. -/
def y (w : Word) : Register := Nibble.ofNat (w.toNat / 16)

/-- The lowest four bits. -/
def n (w : Word) : Nibble := Nibble.ofNat w.toNat

/-- The lowest eight bits. -/
def nn (w : Word) : UInt8 := UInt8.ofNat w.toNat

/-- The lowest twelve bits, as an address. -/
def nnn (w : Word) : Address := ⟨w.toNat % 4096, by omega⟩

end Word

/-- The operation on two registers that the lowest four bits of a word name. -/
def AluOp.ofNibble? : Nat → Option AluOp
  | 0x0 => some .copy
  | 0x1 => some .or
  | 0x2 => some .and
  | 0x3 => some .xor
  | 0x4 => some .add
  | 0x5 => some .subtract
  | 0x6 => some .shiftRight
  | 0x7 => some .subtractFrom
  | 0xE => some .shiftLeft
  | _ => none

/-- The four bits that name an operation on two registers. -/
def AluOp.nibble : AluOp → Nat
  | .copy => 0x0
  | .or => 0x1
  | .and => 0x2
  | .xor => 0x3
  | .add => 0x4
  | .subtract => 0x5
  | .shiftRight => 0x6
  | .subtractFrom => 0x7
  | .shiftLeft => 0xE

namespace Instruction

/-- The instruction of the zero family. -/
def ofZeroFamily (w : Word) : Instruction :=
  if w = 0x00E0 then .clear else if w = 0x00EE then .ret else .hostRoutine w.nnn

/-- The instruction of the keypad family. -/
def ofKeyFamily? (w : Word) : Option Instruction :=
  match w.nn.toNat with
  | 0x9E => some (.skip (.keyDown w.x))
  | 0xA1 => some (.skip (.keyUp w.x))
  | _ => none

/-- The instruction of the family of timers, index register and blocks. -/
def ofLastFamily? (w : Word) : Option Instruction :=
  match w.nn.toNat with
  | 0x07 => some (.readDelay w.x)
  | 0x0A => some (.awaitKey w.x)
  | 0x15 => some (.setDelay w.x)
  | 0x18 => some (.setSound w.x)
  | 0x1E => some (.addIndex w.x)
  | 0x29 => some (.pointAtGlyph w.x)
  | 0x33 => some (.storeDecimal w.x)
  | 0x55 => some (.storeRegisters w.x)
  | 0x65 => some (.loadRegisters w.x)
  | _ => none

/-- The instruction that a word stands for, if it stands for one. The sixteenth family is what is
left when the others are taken. -/
def ofWord? (w : Word) : Option Instruction :=
  match w.family with
  | 0x0 => some (ofZeroFamily w)
  | 0x1 => some (.jump w.nnn)
  | 0x2 => some (.call w.nnn)
  | 0x3 => some (.skip (.equalsByte w.x w.nn))
  | 0x4 => some (.skip (.differsFromByte w.x w.nn))
  | 0x5 => if w.n.val = 0 then some (.skip (.equals w.x w.y)) else none
  | 0x6 => some (.loadByte w.x w.nn)
  | 0x7 => some (.addByte w.x w.nn)
  | 0x8 => (AluOp.ofNibble? w.n.val).map fun op => .alu op w.x w.y
  | 0x9 => if w.n.val = 0 then some (.skip (.differs w.x w.y)) else none
  | 0xA => some (.setIndex w.nnn)
  | 0xB => some (.jumpOffset w.nnn)
  | 0xC => some (.random w.x w.nn)
  | 0xD => some (.draw w.x w.y w.n)
  | 0xE => ofKeyFamily? w
  | _ => ofLastFamily? w

/-- The instruction that a word stands for; a word that stands for none is a fault of the address
it was fetched from. -/
def decode (w : Word) (pc : Int) : Except Fault Instruction :=
  match ofWord? w with
  | some instruction => .ok instruction
  | none => .error (.invalidOpcode w.toNat pc)

/-- An instruction and the word it was decoded from. -/
structure Decoded where
  raw : Word
  instruction : Instruction
  deriving DecidableEq, Repr

/-- Decodes an integer, of which the low sixteen bits count. -/
def decodeNumber (number pc : Int) : Except Fault Decoded :=
  let raw := UInt16.ofInt number
  (decode raw pc).map fun instruction => ⟨raw, instruction⟩

/-- A word with an address in its lowest twelve bits. -/
def wordOfAddress (family : Nat) (address : Address) : Word :=
  UInt16.ofNat (family * 4096 + address)

/-- A word with a register and a byte. -/
def wordOfByte (family : Nat) (x : Register) (byte : UInt8) : Word :=
  UInt16.ofNat (family * 4096 + x * 256 + byte.toNat)

/-- A word with two registers and four more bits. -/
def wordOfPair (family : Nat) (x y : Register) (low : Nat) : Word :=
  UInt16.ofNat (family * 4096 + x * 256 + y * 16 + low)

/-- The word that stands for an instruction. -/
def word : Instruction → Word
  | .clear => 0x00E0
  | .ret => 0x00EE
  | .hostRoutine address => wordOfAddress 0x0 address
  | .jump target => wordOfAddress 0x1 target
  | .call target => wordOfAddress 0x2 target
  | .skip (.equalsByte x byte) => wordOfByte 0x3 x byte
  | .skip (.differsFromByte x byte) => wordOfByte 0x4 x byte
  | .skip (.equals x y) => wordOfPair 0x5 x y 0
  | .loadByte x byte => wordOfByte 0x6 x byte
  | .addByte x byte => wordOfByte 0x7 x byte
  | .alu op x y => wordOfPair 0x8 x y op.nibble
  | .skip (.differs x y) => wordOfPair 0x9 x y 0
  | .setIndex address => wordOfAddress 0xA address
  | .jumpOffset base => wordOfAddress 0xB base
  | .random x mask => wordOfByte 0xC x mask
  | .draw x y rows => wordOfPair 0xD x y rows
  | .skip (.keyDown x) => wordOfByte 0xE x 0x9E
  | .skip (.keyUp x) => wordOfByte 0xE x 0xA1
  | .readDelay x => wordOfByte 0xF x 0x07
  | .awaitKey x => wordOfByte 0xF x 0x0A
  | .setDelay x => wordOfByte 0xF x 0x15
  | .setSound x => wordOfByte 0xF x 0x18
  | .addIndex x => wordOfByte 0xF x 0x1E
  | .pointAtGlyph x => wordOfByte 0xF x 0x29
  | .storeDecimal x => wordOfByte 0xF x 0x33
  | .storeRegisters x => wordOfByte 0xF x 0x55
  | .loadRegisters x => wordOfByte 0xF x 0x65

end Instruction

end Chip8
