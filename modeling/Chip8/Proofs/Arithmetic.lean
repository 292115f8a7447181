import Chip8.Proofs.Performing

/-!
# Arithmetic on registers

What the words `7XNN` and `8XY1` to `8XYE` leave in the registers, told by equations between whole
numbers. Any of the registers may be the flag itself: operands are read before the result is stored,
and the flag is stored last. Main statement: whatever the registers hold and whichever of them a
word names, result and flag balance the operands, and no other register changes.
-/

namespace Chip8

/-- The equation between the operands `a` and `b`, the result `r` and the flag `f` that the last
digit of a word `8XY4` to `8XYE` asks for. -/
def Balances (d : Dialect) (a b r f : Int) : Nat → Prop
  | 0x4 => r + 256 * f = a + b
  | 0x5 => r - 256 * (1 - f) = a - b
  | 0x6 => 2 * r + f = if d.shiftsSecond then b else a
  | 0x7 => r - 256 * (1 - f) = b - a
  | 0xE => r + 256 * f = 2 * if d.shiftsSecond then b else a
  | _ => False

namespace AluOp

/-! ### Bytes -/

/-- A flag is one if what it is about holds, and zero otherwise. -/
theorem toNat_flagOf (p : Prop) [Decidable p] : (flagOf p).toNat = if p then 1 else 0 := by
  unfold flagOf
  by_cases holds : p
  · rw [if_pos holds, if_pos holds]
    rfl
  · rw [if_neg holds, if_neg holds]
    rfl

/-- A flag is a bit. -/
theorem toNat_flagOf_le (p : Prop) [Decidable p] : (flagOf p).toNat ≤ 1 := by
  rw [toNat_flagOf]
  by_cases holds : p
  · rw [if_pos holds]
  · rw [if_neg holds]
    exact Nat.zero_le 1

/-- The carry of a sum is what its eight bits lack. -/
theorem sum_balances (a b : UInt8) :
    ((a + b).toNat : Int) + 256 * (flagOf (255 < a.toNat + b.toNat)).toNat =
      a.toNat + b.toNat := by
  have first := a.toNat_lt
  have second := b.toNat_lt
  rw [UInt8.toNat_add, toNat_flagOf]
  by_cases carry : 255 < a.toNat + b.toNat
  · rw [if_pos carry]
    omega
  · rw [if_neg carry]
    omega

/-- The borrow of a difference is what its eight bits have too much. -/
theorem difference_balances (a b : UInt8) :
    ((a - b).toNat : Int) - 256 * (1 - (flagOf (b ≤ a)).toNat) = a.toNat - b.toNat := by
  have first := a.toNat_lt
  have second := b.toNat_lt
  rw [UInt8.toNat_sub, toNat_flagOf]
  by_cases enough : b ≤ a
  · have order : b.toNat ≤ a.toNat := UInt8.le_iff_toNat_le.mp enough
    rw [if_pos enough]
    omega
  · have order : ¬b.toNat ≤ a.toNat := fun le => enough (UInt8.le_iff_toNat_le.mpr le)
    rw [if_neg enough]
    omega

/-- The lowest bit of a byte. -/
theorem toNat_lowest (byte : UInt8) : (byte &&& 1).toNat = byte.toNat % 2 := by
  rw [UInt8.toNat_and]
  exact Nat.and_one_is_mod byte.toNat

/-- The highest bit of a byte. -/
theorem toNat_highest (byte : UInt8) : (byte >>> 7).toNat = byte.toNat / 128 := by
  rw [UInt8.toNat_shiftRight]
  change byte.toNat >>> 7 = byte.toNat / 128
  rw [Nat.shiftRight_eq_div_pow]

/-- A shift to the right halves, and the lowest bit is what is left over. -/
theorem half_balances (byte : UInt8) :
    2 * ((byte >>> 1).toNat : Int) + (byte &&& 1).toNat = byte.toNat := by
  have half : (byte >>> 1).toNat = byte.toNat / 2 := by
    rw [UInt8.toNat_shiftRight]
    change byte.toNat >>> 1 = byte.toNat / 2
    rw [Nat.shiftRight_eq_div_pow, Nat.pow_one]
  rw [half, toNat_lowest]
  omega

/-- A shift to the left doubles, and the highest bit is what leaves. -/
theorem double_balances (byte : UInt8) :
    ((byte <<< 1).toNat : Int) + 256 * (byte >>> 7).toNat = 2 * byte.toNat := by
  have bound := byte.toNat_lt
  have double : (byte <<< 1).toNat = 2 * byte.toNat % 256 := by
    rw [UInt8.toNat_shiftLeft]
    change byte.toNat <<< 1 % 256 = 2 * byte.toNat % 256
    rw [Nat.shiftLeft_eq, Nat.pow_one, Nat.mul_comm]
  rw [double, toNat_highest]
  omega

/-- The number that the shifts shift. -/
theorem toNat_shiftSource (d : Dialect) (a b : UInt8) :
    ((shiftSource d a b).toNat : Int) = if d.shiftsSecond then (b.toNat : Int) else a.toNat := by
  unfold shiftSource
  cases d.shiftsSecond with
  | true => rfl
  | false => rfl

/-- The last digit of a word `8XY4` to `8XYE` names an operation. -/
theorem exists_named {low : Nat} (member : low ∈ [0x4, 0x5, 0x6, 0x7, 0xE]) :
    ∃ op, ofNibble? low = some op := by
  have named : ∀ low ∈ [0x4, 0x5, 0x6, 0x7, 0xE], (ofNibble? low).isSome = true := by decide
  exact Option.isSome_iff_exists.mp (named low member)

/-- An operation that is none of the bitwise ones stores a flag next to its result, and the two
balance the operands. -/
theorem exists_balanced (d : Dialect) (a b : UInt8) {op : AluOp}
    (arithmetic : op.nibble ∈ [0x4, 0x5, 0x6, 0x7, 0xE]) :
    ∃ value flag, op.result d a b = ⟨value, some flag⟩ ∧ flag.toNat ≤ 1 ∧
      Balances d a.toNat b.toNat value.toNat flag.toNat op.nibble := by
  have source := toNat_shiftSource d a b
  cases op with
  | add => exact ⟨_, _, rfl, toNat_flagOf_le _, sum_balances a b⟩
  | subtract => exact ⟨_, _, rfl, toNat_flagOf_le _, difference_balances a b⟩
  | subtractFrom => exact ⟨_, _, rfl, toNat_flagOf_le _, difference_balances b a⟩
  | shiftRight =>
    have half := half_balances (shiftSource d a b)
    have bit := toNat_lowest (shiftSource d a b)
    rw [source] at half
    exact ⟨shiftSource d a b >>> 1, shiftSource d a b &&& 1, rfl, by omega, half⟩
  | shiftLeft =>
    have double := double_balances (shiftSource d a b)
    have bound := (shiftSource d a b).toNat_lt
    rw [source] at double
    exact ⟨shiftSource d a b <<< 1, shiftSource d a b >>> 7, rfl, by omega, double⟩
  | _ => exact absurd arithmetic (by decide)

end AluOp

namespace Interpreter

/-- What an instruction leaves that stores a value in a register and touches no other one. -/
structure Leaves (i : Interpreter) (o : Outcome Fault Unit) (x : Register) (value : Nat) :
    Prop where
  done : o.answer = .ok ()
  value : (o.interpreter.machine.registers.get x).toNat = value
  others : ∀ v, v ≠ x → o.interpreter.machine.registers.get v = i.machine.registers.get v

/-- What an instruction leaves that stores a value in a register and then a flag: where the two meet
in one register, the flag prevails. -/
structure LeavesFlag (i : Interpreter) (o : Outcome Fault Unit) (x : Register)
    (value flag : Nat) : Prop where
  done : o.answer = .ok ()
  flag : (o.interpreter.machine.registers.get Register.flag).toNat = flag
  value : x ≠ Register.flag → (o.interpreter.machine.registers.get x).toNat = value
  others : ∀ v, v ≠ x → v ≠ Register.flag →
    o.interpreter.machine.registers.get v = i.machine.registers.get v

variable (i : Interpreter) (op : AluOp) (x y : Register) {value flag : UInt8}

/-- No operation on two registers faults. -/
theorem perform_alu_done : (i.perform (.alu op x y)).answer = .ok () :=
  (perform_done_iff i _).mpr i.machine.no_block_free

/-- An operation without a flag stores its value. -/
theorem leaves_of_result
    (result : op.result i.dialect (i.machine.registers.get x) (i.machine.registers.get y) =
      ⟨value, none⟩) : i.Leaves (i.perform (.alu op x y)) x value.toNat := by
  have done := perform_alu_done i op x y
  have stored := (stored_of_done done).registers
  simp only [Machine.contentsAfter, Registers.get_operate, result] at stored
  refine ⟨done, ?_, ?_⟩
  · rw [stored, if_pos rfl]
  · intro v other
    rw [stored, if_neg other.symm]

/-- An operation with a flag stores its value and then its flag. -/
theorem leavesFlag_of_result
    (result : op.result i.dialect (i.machine.registers.get x) (i.machine.registers.get y) =
      ⟨value, some flag⟩) :
    i.LeavesFlag (i.perform (.alu op x y)) x value.toNat flag.toNat := by
  have done := perform_alu_done i op x y
  have stored := (stored_of_done done).registers
  simp only [Machine.contentsAfter, Registers.get_operate, result] at stored
  refine ⟨done, ?_, ?_, ?_⟩
  · rw [stored, if_pos rfl]
  · intro apart
    rw [stored, if_neg apart.symm, if_pos rfl]
  · intro v other apart
    rw [stored, if_neg apart.symm, if_neg other.symm]

/-- A bitwise operation stores its value, and then a cleared flag where the dialect wants it. -/
theorem leaves_bitwise
    (result : op.result i.dialect (i.machine.registers.get x) (i.machine.registers.get y) =
      ⟨value, AluOp.bitwiseFlag i.dialect⟩) :
    (i.dialect.bitwiseClearsFlag = true →
      i.LeavesFlag (i.perform (.alu op x y)) x value.toNat 0) ∧
    (i.dialect.bitwiseClearsFlag = false →
      i.Leaves (i.perform (.alu op x y)) x value.toNat) := by
  unfold AluOp.bitwiseFlag at result
  constructor
  · intro clears
    rw [if_pos clears] at result
    exact leavesFlag_of_result i op x y result
  · intro keeps
    rw [keeps, if_neg Bool.false_ne_true] at result
    exact leaves_of_result i op x y result

/-- A byte is added without a flag, and the sum is cut to eight bits. -/
theorem leaves_addByte (byte : UInt8) :
    i.Leaves (i.perform (.addByte x byte)) x
      (((i.machine.registers.get x).toNat + byte.toNat) % 256) := by
  have done : (i.perform (.addByte x byte)).answer = .ok () :=
    (perform_done_iff i _).mpr i.machine.no_block_free
  have stored := (stored_of_done done).registers
  simp only [Machine.contentsAfter] at stored
  refine ⟨done, ?_, ?_⟩
  · rw [stored, if_pos rfl, UInt8.toNat_add]
  · intro v other
    rw [stored, if_neg other.symm]

/-- The last digit of a word that operates on two registers names the operation. -/
theorem performWord_pair {low : Nat} (named : AluOp.ofNibble? low = some op) :
    i.performWord (Instruction.wordOfPair 0x8 x y low) = i.perform (.alu op x y) := by
  have digit := Instruction.nibble_of_ofNibble? named
  rw [← digit]
  exact performWord_word i (.alu op x y) trivial

/-- Whatever the registers hold, whichever of them a word names, the flag included, and whatever the
dialect: the words `8XY4` to `8XYE` leave a result and a flag that balance the operands; the bitwise
words leave their result, and a cleared flag where the dialect wants it; and `7XNN` leaves the sum
and no flag. All other registers keep their contents. -/
theorem performWord_arithmetic (i : Interpreter) (x y : Register) :
    let a := (i.machine.registers.get x).toNat
    let b := (i.machine.registers.get y).toNat
    (∀ low ∈ [0x4, 0x5, 0x6, 0x7, 0xE], ∃ r f : Nat, r ≤ 255 ∧ f ≤ 1 ∧
      Balances i.dialect a b r f low ∧
      i.LeavesFlag (i.performWord (Instruction.wordOfPair 0x8 x y low)) x r f) ∧
    (∀ low r, (low, r) ∈ [(0x1, a ||| b), (0x2, a &&& b), (0x3, a ^^^ b)] →
      (i.dialect.bitwiseClearsFlag = true →
        i.LeavesFlag (i.performWord (Instruction.wordOfPair 0x8 x y low)) x r 0) ∧
      (i.dialect.bitwiseClearsFlag = false →
        i.Leaves (i.performWord (Instruction.wordOfPair 0x8 x y low)) x r)) ∧
    ∀ byte : UInt8,
      i.Leaves (i.performWord (Instruction.wordOfByte 0x7 x byte)) x ((a + byte.toNat) % 256) := by
  intro a b
  refine ⟨?_, ?_, ?_⟩
  · intro low member
    obtain ⟨op, named⟩ := AluOp.exists_named member
    have digit := Instruction.nibble_of_ofNibble? named
    rw [← digit] at member
    obtain ⟨value, flag, result, bit, balanced⟩ :=
      AluOp.exists_balanced i.dialect (i.machine.registers.get x) (i.machine.registers.get y) member
    rw [digit] at balanced
    rw [performWord_pair i op x y named]
    have bound := value.toNat_lt
    exact ⟨value.toNat, flag.toNat, by omega, bit, balanced, leavesFlag_of_result i op x y result⟩
  · intro low r member
    simp only [List.mem_cons, Prod.mk.injEq, List.not_mem_nil, or_false] at member
    rcases member with ⟨rfl, rfl⟩ | ⟨rfl, rfl⟩ | ⟨rfl, rfl⟩
    · rw [performWord_pair i .or x y rfl, ← UInt8.toNat_or]
      exact leaves_bitwise i .or x y rfl
    · rw [performWord_pair i .and x y rfl, ← UInt8.toNat_and]
      exact leaves_bitwise i .and x y rfl
    · rw [performWord_pair i .xor x y rfl, ← UInt8.toNat_xor]
      exact leaves_bitwise i .xor x y rfl
  · intro byte
    have performed : i.performWord (Instruction.wordOfByte 0x7 x byte) =
        i.perform (.addByte x byte) :=
      performWord_word i (.addByte x byte) trivial
    rw [performed]
    exact leaves_addByte i x byte

/-- The flag register added to itself ends as the carry, and with itself under an exclusive or as
zero. -/
theorem performWord_arithmetic_flag :
    let i : Interpreter := { machine := Machine.initial.setRegister Register.flag 200 }
    let sum := i.performWord 0x8FF4
    let exclusive := i.performWord 0x8FF3
    sum.answer = .ok () ∧ (sum.interpreter.machine.registers.get Register.flag).toNat = 1 ∧
      (exclusive.interpreter.machine.registers.get Register.flag).toNat = 0 := by
  intro i sum exclusive
  obtain ⟨flagged, bits, -⟩ := performWord_arithmetic i Register.flag Register.flag
  obtain ⟨r, f, small, bit, balanced, left⟩ := flagged 0x4 (by decide)
  have carry : f = 1 := by
    have held : (i.machine.registers.get Register.flag).toNat = 200 := by decide +kernel
    rw [held] at balanced
    simp only [Balances] at balanced
    omega
  have cleared := (bits 0x3 0 (by decide +kernel)).1 rfl
  exact ⟨left.done, left.flag.trans carry, cleared.flag⟩

end Interpreter

end Chip8
