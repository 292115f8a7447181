import Chip8.Registers

/-!
# Instructions

What a program can ask of the machine. An instruction holds its own operands and no others:
registers, bytes, and addresses of twelve bits.
-/

namespace Chip8

/-- An address of twelve bits, which is one of a byte of memory. -/
abbrev Address := Fin 4096

/-- The operations on two registers. -/
inductive AluOp where
  /-- Copies the second register. -/
  | copy
  /-- Joins the bits. -/
  | or
  /-- Keeps the common bits. -/
  | and
  /-- Keeps the bits in which the registers differ. -/
  | xor
  /-- Adds, with the carry in the flag. -/
  | add
  /-- Subtracts the second register, with the absence of a borrow in the flag. -/
  | subtract
  /-- Shifts to the right, with the lost bit in the flag. -/
  | shiftRight
  /-- Subtracts from the second register, with the absence of a borrow in the flag. -/
  | subtractFrom
  /-- Shifts to the left, with the lost bit in the flag. -/
  | shiftLeft
  deriving DecidableEq, Repr

/-- What a skip depends on. -/
inductive Condition where
  | equalsByte (x : Register) (byte : UInt8)
  | differsFromByte (x : Register) (byte : UInt8)
  | equals (x y : Register)
  | differs (x y : Register)
  /-- The key named by the low bits of the register is down. -/
  | keyDown (x : Register)
  /-- The key named by the low bits of the register is up. -/
  | keyUp (x : Register)
  deriving DecidableEq, Repr

/-- An instruction with its operands. -/
inductive Instruction where
  /-- Darkens the picture. -/
  | clear
  /-- Goes back to where the newest call came from. -/
  | ret
  /-- Would run a routine of the host machine, and does nothing here. -/
  | hostRoutine (address : Address)
  | jump (target : Address)
  | call (target : Address)
  /-- Jumps beyond the base by the contents of a register. -/
  | jumpOffset (base : Address)
  /-- Skips the next instruction if the condition holds. -/
  | skip (condition : Condition)
  | loadByte (x : Register) (byte : UInt8)
  /-- Adds without touching the flag. -/
  | addByte (x : Register) (byte : UInt8)
  | alu (op : AluOp) (x y : Register)
  /-- Loads a random byte cut to the bits of the mask. -/
  | random (x : Register) (mask : UInt8)
  | setIndex (address : Address)
  | addIndex (x : Register)
  /-- Points the index register at the glyph for a digit. -/
  | pointAtGlyph (x : Register)
  /-- Stores the three decimal digits of a register. -/
  | storeDecimal (x : Register)
  /-- Stores the registers from `V0` to `x`. -/
  | storeRegisters (x : Register)
  /-- Loads the registers from `V0` to `x`. -/
  | loadRegisters (x : Register)
  /-- Draws a sprite of the given number of rows at the point that two registers give. -/
  | draw (x y : Register) (rows : Nibble)
  /-- Waits until a key is struck, and loads it. -/
  | awaitKey (x : Register)
  | readDelay (x : Register)
  | setDelay (x : Register)
  | setSound (x : Register)
  deriving DecidableEq, Repr

end Chip8
