import Chip8.Instruction.Word

/-!
# Instructions as text

The assembly notation of instructions, and the notation of words that stand for none. Every operand
bit of an instruction shows in its text.
-/

namespace Chip8

open Text

/-- The name of a register. -/
def Register.name (x : Register) : String :=
  s!"V{hex 1 x.val}"

/-- An address as three digits. -/
def Address.text (a : Address) : String :=
  s!"${hex 3 a.val}"

/-- A byte operand as two digits. -/
def byteText (b : UInt8) : String :=
  s!"${hexByte b}"

/-- The notation of an operation on two registers; a copy is written as a load. -/
def AluOp.mnemonic : AluOp → String
  | .copy => "LD"
  | .or => "OR"
  | .and => "AND"
  | .xor => "XOR"
  | .add => "ADD"
  | .subtract => "SUB"
  | .shiftRight => "SHR"
  | .subtractFrom => "SUBN"
  | .shiftLeft => "SHL"

/-- The notation of a skip. -/
def Condition.text : Condition → String
  | .equalsByte x byte => s!"SE {x.name}, {byteText byte}"
  | .differsFromByte x byte => s!"SNE {x.name}, {byteText byte}"
  | .equals x y => s!"SE {x.name}, {y.name}"
  | .differs x y => s!"SNE {x.name}, {y.name}"
  | .keyDown x => s!"SKP {x.name}"
  | .keyUp x => s!"SKNP {x.name}"

namespace Instruction

/-- The notation of an instruction. -/
def text : Instruction → String
  | .clear => "CLS"
  | .ret => "RET"
  | .hostRoutine address => s!"SYS {address.text}"
  | .jump target => s!"JP {target.text}"
  | .call target => s!"CALL {target.text}"
  | .jumpOffset base => s!"JP V0, {base.text}"
  | .skip condition => condition.text
  | .loadByte x byte => s!"LD {x.name}, {byteText byte}"
  | .addByte x byte => s!"ADD {x.name}, {byteText byte}"
  | .alu op x y => s!"{op.mnemonic} {x.name}, {y.name}"
  | .random x mask => s!"RND {x.name}, {byteText mask}"
  | .setIndex address => s!"LD I, {address.text}"
  | .addIndex x => s!"ADD I, {x.name}"
  | .pointAtGlyph x => s!"LD F, {x.name}"
  | .storeDecimal x => s!"LD B, {x.name}"
  | .storeRegisters x => s!"LD [I], {x.name}"
  | .loadRegisters x => s!"LD {x.name}, [I]"
  | .draw x y rows => s!"DRW {x.name}, {y.name}, {rows.val}"
  | .awaitKey x => s!"LD {x.name}, K"
  | .readDelay x => s!"LD {x.name}, DT"
  | .setDelay x => s!"LD DT, {x.name}"
  | .setSound x => s!"LD ST, {x.name}"

end Instruction

/-- The notation of a word, of which the low sixteen bits count. -/
def disassemble (w : Int) : String :=
  let word := UInt16.ofInt w
  match Instruction.ofWord? word with
  | some instruction => instruction.text
  | none => s!"??? ${hex 4 word.toNat}"

end Chip8
