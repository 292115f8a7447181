import Chip8.Dialect
import Chip8.Instruction.Basic

/-!
# Operations on two registers

Every operation yields a byte and, most of them, a flag. The flag is stored last, so that it
prevails when the operation targets the flag register itself.
-/

namespace Chip8

/-- One if the proposition holds and zero otherwise. -/
def flagOf (p : Prop) [Decidable p] : UInt8 :=
  if p then 1 else 0

/-- What an operation yields for the contents of its registers. -/
structure AluResult where
  value : UInt8
  flag : Option UInt8 := none
  deriving DecidableEq, Repr

namespace AluOp

/-- The flag of the bitwise operations. -/
def bitwiseFlag (d : Dialect) : Option UInt8 :=
  if d.bitwiseClearsFlag then some 0 else none

/-- The byte that the shifts shift. -/
def shiftSource (d : Dialect) (a b : UInt8) : UInt8 :=
  if d.shiftsSecond then b else a

/-- The result of an operation on the contents `a` and `b` of its two registers. -/
def result (d : Dialect) (a b : UInt8) : AluOp → AluResult
  | .copy => { value := b }
  | .or => { value := a ||| b, flag := bitwiseFlag d }
  | .and => { value := a &&& b, flag := bitwiseFlag d }
  | .xor => { value := a ^^^ b, flag := bitwiseFlag d }
  | .add => { value := a + b, flag := some (flagOf (255 < a.toNat + b.toNat)) }
  | .subtract => { value := a - b, flag := some (flagOf (b ≤ a)) }
  | .subtractFrom => { value := b - a, flag := some (flagOf (a ≤ b)) }
  | .shiftRight =>
    let source := shiftSource d a b
    { value := source >>> 1, flag := some (source &&& 1) }
  | .shiftLeft =>
    let source := shiftSource d a b
    { value := source <<< 1, flag := some (source >>> 7) }

end AluOp

/-- The registers with the flag replaced, if there is a flag to store. -/
def Registers.setFlag (r : Registers) : Option UInt8 → Registers
  | some flag => r.set Register.flag flag
  | none => r

/-- The registers after an operation on `x` and `y`. -/
def Registers.operate (r : Registers) (d : Dialect) (op : AluOp) (x y : Register) : Registers :=
  let result := op.result d (r.get x) (r.get y)
  (r.set x result.value).setFlag result.flag

end Chip8
