import Chip8.Machine.Interpreter

/-!
# The overlay

The lines that the debugging overlay shows over the picture.
-/

namespace Chip8

open Text

/-- The line with the instruction that comes next, unless the program counter is beyond memory. -/
def Interpreter.nextLine (i : Interpreter) : Option String :=
  i.peekWord.map fun word => s!"OP: ${hex 4 word.toNat} {disassemble word.toNat}"

/-- All lines of the overlay. -/
def Interpreter.overlayLines (i : Interpreter) : List String :=
  let m := i.machine
  let r := m.registers
  let v := r.v.toList
  [s!"PC: ${hex 3 r.pc.toNat}  I: ${hex 3 r.index.toNat}",
    s!"SP: {m.stack.depth}  DT: {hexByte m.delay.value}  ST: {hexByte m.sound.value}",
    s!"V0-V7: {Registers.hexList (v.take 8)}",
    s!"V8-VF: {Registers.hexList (v.drop 8)}"] ++ i.nextLine.toList

end Chip8
