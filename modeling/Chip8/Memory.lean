import Chip8.Fault
import Chip8.Font

/-!
# Memory

Four kilobytes, with the font at the bottom and programs from `0x200` up. Reads and writes take any
integer as an address and refuse those outside memory; a block is checked as a whole before its
first byte is touched, so a refused write changes nothing. Written values are cut to eight bits.
-/

namespace Chip8

/-- The contents of memory. -/
structure Memory where
  cells : Vector UInt8 4096
  deriving DecidableEq

namespace Memory

/-- The number of bytes in memory. -/
def size : Nat := 4096

/-- The address at which programs are loaded and started. -/
def programStart : Nat := 0x200

/-- The size of the longest program that fits. -/
def programLimit : Nat := 3584

/-- The byte at an address; beyond memory there are only zeros. -/
def byteAt (m : Memory) (a : Nat) : UInt8 :=
  (m.cells[a]?).getD 0

/-- The `n` bytes from an address up. -/
def bytesAt (m : Memory) (a n : Nat) : List UInt8 :=
  (List.range n).map fun i => m.byteAt (a + i)

/-- Replaces the byte at an address; beyond memory there is nothing to replace. -/
def put (m : Memory) (a : Nat) (b : UInt8) : Memory :=
  { m with cells := m.cells.setIfInBounds a b }

/-- Replaces the bytes from an address up. -/
def putAll (m : Memory) (a : Nat) : List UInt8 → Memory
  | [] => m
  | b :: bs => (m.put a b).putAll (a + 1) bs

/-- Memory before any program is loaded: the font and zeros. -/
def initial : Memory :=
  putAll ⟨Vector.replicate 4096 0⟩ Font.address Font.glyphs

/-- Refuses a block that begins below memory or ends beyond it. The fault names the first address
outside, which is the block's own when it begins outside. -/
def check (address length : Int) : Except Fault Unit :=
  if address < 0 then .error (.outOfBounds address)
  else if 4096 < address + length then .error (.outOfBounds (max address 4096))
  else .ok ()

/-- The byte at an address. -/
def read (m : Memory) (address : Int) : Except Fault UInt8 :=
  match check address 1 with
  | .error fault => .error fault
  | .ok () => .ok (m.byteAt address.toNat)

/-- Memory with the low eight bits of a value at an address. -/
def write (m : Memory) (address value : Int) : Except Fault Memory :=
  match check address 1 with
  | .error fault => .error fault
  | .ok () => .ok (m.put address.toNat (UInt8.ofInt value))

/-- Where a block ends that ends before `stop`: below zero, `stop` counts back from the end of
memory. -/
def blockEnd (stop : Int) : Nat :=
  if stop < 0 then (4096 + stop).toNat else stop.toNat

/-- The bytes from `address` up to `address + length`. A negative length is no fault: the end may
then count back from the end of memory. -/
def readBlock (m : Memory) (address length : Int) : Except Fault (List UInt8) :=
  match check address length with
  | .error fault => .error fault
  | .ok () => .ok (m.bytesAt address.toNat (blockEnd (address + length) - address.toNat))

/-- Memory with the given bytes from an address up. -/
def writeBytes (m : Memory) (address : Int) (bytes : List UInt8) : Except Fault Memory :=
  match check address bytes.length with
  | .error fault => .error fault
  | .ok () => .ok (m.putAll address.toNat bytes)

/-- Memory with the low eight bits of the given values from an address up. -/
def writeBlock (m : Memory) (address : Int) (values : List Int) : Except Fault Memory :=
  m.writeBytes address (values.map UInt8.ofInt)

/-- Refuses a program that is too long. -/
def checkProgram (program : List UInt8) : Except Fault Unit :=
  if programLimit < program.length then
    .error (.romTooLarge program.length programLimit)
  else .ok ()

/-- Memory with a program in its place; what lies around it stays. -/
def loadProgram (m : Memory) (program : List UInt8) : Except Fault Memory :=
  match checkProgram program with
  | .error fault => .error fault
  | .ok () => .ok (m.putAll programStart program)

/-! ### What the operations do to the bytes -/

/-- Only the byte that is replaced changes. -/
theorem byteAt_put (m : Memory) (a i : Nat) (b : UInt8) :
    (m.put a b).byteAt i = if a = i ∧ i < 4096 then b else m.byteAt i := by
  by_cases same : a = i
  · subst same
    by_cases inside : a < 4096
    · simp [put, byteAt, inside]
    · simp [put, byteAt, inside]
  · simp [put, byteAt, same]

/-- Only the bytes of the block change, and they become the given ones. -/
theorem byteAt_putAll (m : Memory) (a i : Nat) (bs : List UInt8) :
    (m.putAll a bs).byteAt i =
      if a ≤ i ∧ i < a + bs.length ∧ i < 4096 then bs.getD (i - a) 0 else m.byteAt i := by
  induction bs generalizing m a with
  | nil =>
    rw [if_neg (by simp; omega)]
    rfl
  | cons b bs ih =>
    rw [putAll, ih, byteAt_put]
    by_cases first : a = i
    · subst first
      by_cases inside : a < 4096
      · rw [if_neg (by omega), if_pos ⟨rfl, inside⟩, if_pos (by simp; omega)]
        simp
      · rw [if_neg (by omega), if_neg (by omega), if_neg (by omega)]
    · rw [if_neg (show ¬(a = i ∧ i < 4096) by omega)]
      by_cases rest : a + 1 ≤ i ∧ i < a + 1 + bs.length ∧ i < 4096
      · rw [if_pos rest, if_pos (by simp; omega)]
        obtain ⟨k, rfl⟩ : ∃ k, i = a + 1 + k := ⟨i - (a + 1), by omega⟩
        rw [show a + 1 + k - (a + 1) = k by omega, show a + 1 + k - a = k + 1 by omega,
          List.getD_cons_succ]
      · rw [if_neg rest, if_neg (by simp; omega)]

@[simp] theorem length_bytesAt (m : Memory) (a n : Nat) : (m.bytesAt a n).length = n := by
  simp [bytesAt]

/-- A block is accepted when all of it lies in memory. -/
theorem check_eq_ok_iff (address length : Int) :
    check address length = .ok () ↔ 0 ≤ address ∧ address + length ≤ 4096 := by
  unfold check
  split
  · simp; omega
  · split
    · simp; omega
    · simp; omega

end Memory

end Chip8
