import Chip8.Nibble
import Chip8.Signed
import Chip8.Text.Hex

/-!
# Registers

Sixteen eight-bit registers `V0` to `VF`, the index register `I` and the program counter, both of
sixteen bits. Stores keep the low bits of the value.
-/

namespace Chip8

open Text

/-- The name of one of the registers `V0` to `VF`. -/
abbrev Register := Nibble

/-- The register that instructions use for carries, borrows and collisions. -/
def Register.flag : Register := Fin.last 15

/-- The contents of all registers. -/
structure Registers where
  v : Vector UInt8 16 := Vector.replicate 16 0
  index : UInt16 := 0
  pc : UInt16 := 0x200
  deriving DecidableEq

/-- The ways in which a number fails to name a register. -/
inductive RegisterError where
  /-- There is no register of that number. -/
  | missing
  /-- The number is too wide to be an index at all. -/
  | tooWide
  deriving DecidableEq, Repr

/-- The error in words. -/
def RegisterError.message : RegisterError → String
  | .missing => "bytearray index out of range"
  | .tooWide => "cannot fit 'int' into an index-sized integer"

/-- The register that a number names. A negative number counts from the last register down, and a
number outside the signed 64-bit range is not looked up. -/
def Register.ofInt (i : Int) : Except RegisterError Register :=
  if Signed.fits i then
    match Nibble.ofInt? (if i < 0 then i + 16 else i) with
    | some x => .ok x
    | none => .error .missing
  else .error .tooWide

namespace Registers

/-- The contents of a register. -/
def get (r : Registers) (x : Register) : UInt8 :=
  r.v[x.val]

/-- Replaces the contents of a register. -/
def set (r : Registers) (x : Register) (b : UInt8) : Registers :=
  { r with v := r.v.set x b }

/-- The contents of the register that a number names. -/
def read (r : Registers) (i : Int) : Except RegisterError UInt8 :=
  (Register.ofInt i).map r.get

/-- Stores the low eight bits of a value in the register that a number names. -/
def write (r : Registers) (i value : Int) : Except RegisterError Registers :=
  (Register.ofInt i).map fun x => r.set x (UInt8.ofInt value)

/-- Stores the low sixteen bits of a value in the index register. -/
def setIndex (r : Registers) (value : Int) : Registers :=
  { r with index := UInt16.ofInt value }

/-- Stores the low sixteen bits of a value in the program counter. -/
def setPC (r : Registers) (value : Int) : Registers :=
  { r with pc := UInt16.ofInt value }

/-- Replaces the contents of consecutive registers from `V0` up. -/
def setFirst (r : Registers) (bytes : List UInt8) : Registers :=
  { r with v := Vector.ofFn fun x => bytes.getD x (r.get x) }

/-- The contents of the registers from `V0` to `x`. -/
def firstThrough (r : Registers) (x : Register) : List UInt8 :=
  r.v.toList.take (x + 1)

/-- Only the register that is replaced changes. -/
theorem get_set (r : Registers) (x y : Register) (b : UInt8) :
    (r.set x b).get y = if x = y then b else r.get y := by
  by_cases same : x = y
  · subst same
    simp [set, get]
  · have : x.val ≠ y.val := fun h => same (Fin.ext h)
    simp [set, get, same, this]

@[simp] theorem get_setFirst (r : Registers) (bytes : List UInt8) (x : Register) :
    (r.setFirst bytes).get x = bytes.getD x.val (r.get x) := by
  simp [setFirst, get]

/-- The contents of some registers, separated by blanks. -/
def hexList (bytes : List UInt8) : String :=
  " ".intercalate (bytes.map hexByte)

/-- All registers on one line. -/
def text (r : Registers) : String :=
  s!"RegisterFile(PC=${hex 3 r.pc.toNat}, I=${hex 3 r.index.toNat}, V=[{hexList r.v.toList}])"

end Registers

end Chip8
