import Chip8.Proofs.Drawing
import Chip8.Proofs.Execution

/-!
# What an instruction stores

The parts of the machine that programs read and write, part by part: memory, screen, timers, the
index register and the other registers after an instruction that does not fault. A sprite is small
next to the screen, so that drawing one inverts exactly the pixels under its lit cells.
-/

namespace Chip8

namespace Memory

/-- What is read of a block that begins in memory is its bytes. -/
theorem eq_bytesAt_of_readBlock {m : Memory} {a length : Nat} {bytes : List UInt8}
    (read : m.readBlock a length = .ok bytes) : bytes = m.bytesAt a length := by
  rw [readBlock] at read
  split at read
  · cases read
  · cases read
    rw [blockEnd, if_neg (by omega), Int.toNat_natCast]
    congr 1
    omega

/-- Bytes that are written replace those from the beginning of the block up. -/
theorem eq_putAll_of_writeBytes {m n : Memory} {a : Nat} {bytes : List UInt8}
    (written : m.writeBytes a bytes = .ok n) : n = m.putAll a bytes := by
  rw [writeBytes] at written
  split at written
  · cases written
  · cases written
    rw [Int.toNat_natCast]

/-- The bytes of a block, one by one. -/
theorem getElem?_bytesAt (m : Memory) (a length k : Nat) :
    (m.bytesAt a length)[k]? = if k < length then some (m.byteAt (a + k)) else none := by
  rw [bytesAt, List.getElem?_map]
  by_cases inside : k < length
  · rw [if_pos inside, List.getElem?_range inside]
    rfl
  · rw [if_neg inside, List.getElem?_eq_none (by rw [List.length_range]; omega)]
    rfl

end Memory

namespace Registers

/-- Loading registers leaves the index register alone. -/
theorem index_setFirst (r : Registers) (bytes : List UInt8) :
    (r.setFirst bytes).index = r.index := by
  rw [setFirst]

/-- An operation on two registers leaves the index register alone. -/
theorem index_operate (r : Registers) (d : Dialect) (op : AluOp) (x y : Register) :
    (r.operate d op x y).index = r.index := by
  simp only [operate]
  cases (op.result d (r.get x) (r.get y)).flag with
  | none => rfl
  | some flag => rfl

/-- After an operation the flag is in the flag register, if there is one, and the value in the first
register. -/
theorem get_operate (r : Registers) (d : Dialect) (op : AluOp) (x y v : Register) :
    (r.operate d op x y).get v =
      let result := op.result d (r.get x) (r.get y)
      match result.flag with
      | some flag => if Register.flag = v then flag else if x = v then result.value else r.get v
      | none => if x = v then result.value else r.get v := by
  simp only [operate]
  cases (op.result d (r.get x) (r.get y)).flag with
  | none => exact get_set r x v _
  | some flag => rw [setFlag, get_set, get_set]

end Registers

/-- The index register after a block of registers has passed. -/
def Dialect.indexBehind (d : Dialect) (index : UInt16) (x : Register) : UInt16 :=
  if d.blockMovesIndex then UInt16.ofInt (index.toNat + (x + 1 : Nat)) else index

namespace Machine

/-! ### The parts after an instruction that does not fault -/

/-- The rows of the sprite that the index register points at. -/
def sprite (m : Machine) (rows : Nibble) : List UInt8 :=
  m.memory.bytesAt m.blockStart rows

/-- Memory. -/
def memoryAfter (m : Machine) : Instruction → Memory
  | .storeDecimal x => m.memory.putAll m.blockStart (decimalDigits (m.registers.get x))
  | .storeRegisters x => m.memory.putAll m.blockStart (m.registers.firstThrough x)
  | _ => m.memory

/-- The screen. -/
def screenAfter (m : Machine) : Instruction → Screen
  | .clear => Picture.blank 64 32
  | .draw x y rows =>
    (m.paintSprite (m.registers.get x) (m.registers.get y) (m.sprite rows)).screen
  | _ => m.screen

/-- The delay timer. -/
def delayAfter (m : Machine) : Instruction → Timer
  | .setDelay x => ⟨m.registers.get x⟩
  | _ => m.delay

/-- The sound timer. -/
def soundAfter (m : Machine) : Instruction → Timer
  | .setSound x => ⟨m.registers.get x⟩
  | _ => m.sound

/-- The index register. -/
def indexAfter (m : Machine) (d : Dialect) : Instruction → UInt16
  | .setIndex address => UInt16.ofInt address.val
  | .addIndex x => UInt16.ofInt (m.registers.index.toNat + (m.registers.get x).toNat : Nat)
  | .pointAtGlyph x => UInt16.ofInt (Font.glyphAddress (m.registers.get x).toNat)
  | .storeRegisters x | .loadRegisters x => d.indexBehind m.registers.index x
  | _ => m.registers.index

/-- The contents of the register `v`. -/
def contentsAfter (m : Machine) (d : Dialect) (chance : UInt8) (v : Register) :
    Instruction → UInt8
  | .loadByte x byte => if x = v then byte else m.registers.get v
  | .addByte x byte => if x = v then m.registers.get x + byte else m.registers.get v
  | .alu op x y => (m.registers.operate d op x y).get v
  | .random x mask => if x = v then chance &&& mask else m.registers.get v
  | .addIndex x =>
    if d.indexSetsFlag && Register.flag = v then
      flagOf (0xFFF < m.registers.index.toNat + (m.registers.get x).toNat)
    else m.registers.get v
  | .loadRegisters x =>
    if v ≤ x then m.memory.byteAt (m.blockStart + v) else m.registers.get v
  | .draw x y rows =>
    if Register.flag = v then
      flagOf (m.spriteCollides (m.registers.get x) (m.registers.get y) (m.sprite rows) = true)
    else m.registers.get v
  | .readDelay x => if x = v then m.delay.value else m.registers.get v
  | _ => m.registers.get v

/-- What an instruction that does not fault makes of the parts that programs read and write. -/
structure Stored (m : Machine) (d : Dialect) (chance : UInt8) (instruction : Instruction)
    (next : Machine) : Prop where
  memory : next.memory = m.memoryAfter instruction
  screen : next.screen = m.screenAfter instruction
  delay : next.delay = m.delayAfter instruction
  sound : next.sound = m.soundAfter instruction
  index : next.registers.index = m.indexAfter d instruction
  registers : ∀ v, next.registers.get v = m.contentsAfter d chance v instruction

/-- Moving the index register behind a block changes nothing else. -/
theorem passBlock_eq (m : Machine) (d : Dialect) (x : Register) :
    ∃ r : Registers, m.passBlock d x = { m with registers := r } ∧
      r.index = d.indexBehind m.registers.index x ∧ ∀ v, r.get v = m.registers.get v := by
  unfold passBlock Dialect.indexBehind
  split
  · exact ⟨m.registers.setIndex _, rfl, rfl, fun _ => rfl⟩
  · exact ⟨m.registers, rfl, rfl, fun _ => rfl⟩

/-- The registers that a block of bytes is loaded into. -/
theorem get_setFirst_bytesAt (m : Machine) (x v : Register) :
    (m.registers.setFirst (m.memory.bytesAt m.blockStart (x + 1))).get v =
      if v ≤ x then m.memory.byteAt (m.blockStart + v) else m.registers.get v := by
  rw [Registers.get_setFirst, List.getD_eq_getElem?_getD, Memory.getElem?_bytesAt]
  by_cases within : v ≤ x
  · rw [if_pos within, if_pos (Nat.lt_succ_of_le within)]
    rfl
  · rw [if_neg within, if_neg (by rw [Fin.le_def] at within; omega)]
    rfl

/-- An instruction that does not fault stores this. -/
theorem stored {m next : Machine} {d : Dialect} {chance : UInt8} {instruction : Instruction}
    (ran : m.execute d chance instruction = .ok next) : Stored m d chance instruction next := by
  cases instruction with
  | ret =>
    obtain ⟨⟨address, stack⟩, _, rfl⟩ := ok_of_map_ok ran
    exact ⟨rfl, rfl, rfl, rfl, rfl, fun _ => rfl⟩
  | call target =>
    obtain ⟨stack, _, rfl⟩ := ok_of_map_ok ran
    exact ⟨rfl, rfl, rfl, rfl, rfl, fun _ => rfl⟩
  | skip condition =>
    cases ran
    cases m.satisfies condition with
    | true => exact ⟨rfl, rfl, rfl, rfl, rfl, fun _ => rfl⟩
    | false => exact ⟨rfl, rfl, rfl, rfl, rfl, fun _ => rfl⟩
  | storeDecimal x =>
    obtain ⟨memory, written, rfl⟩ := ok_of_map_ok ran
    exact ⟨Memory.eq_putAll_of_writeBytes written, rfl, rfl, rfl, rfl, fun _ => rfl⟩
  | storeRegisters x =>
    obtain ⟨memory, written, rfl⟩ := ok_of_map_ok ran
    obtain ⟨r, moved, index, contents⟩ := passBlock_eq { m with memory := memory } d x
    rw [moved]
    exact ⟨Memory.eq_putAll_of_writeBytes written, rfl, rfl, rfl, index, contents⟩
  | loadRegisters x =>
    obtain ⟨bytes, read, rfl⟩ := ok_of_map_ok ran
    obtain rfl := Memory.eq_bytesAt_of_readBlock read
    have first := get_setFirst_bytesAt m x
    have pointer := Registers.index_setFirst m.registers (m.memory.bytesAt m.blockStart (x + 1))
    generalize m.registers.setFirst (m.memory.bytesAt m.blockStart (x + 1)) = loaded
      at first pointer
    obtain ⟨r, moved, index, contents⟩ := passBlock_eq { m with registers := loaded } d x
    rw [moved]
    rw [pointer] at index
    exact ⟨rfl, rfl, rfl, rfl, index, fun v => (contents v).trans (first v)⟩
  | draw x y rows =>
    obtain ⟨bytes, read, rfl⟩ := ok_of_map_ok ran
    obtain rfl := Memory.eq_bytesAt_of_readBlock read
    exact ⟨rfl, rfl, rfl, rfl, rfl, fun v => Registers.get_set _ _ v _⟩
  | addIndex x =>
    cases ran
    simp only [addIndex]
    cases sets : d.indexSetsFlag with
    | true =>
      refine ⟨rfl, rfl, rfl, rfl, rfl, fun v => ?_⟩
      simp only [contentsAfter, sets, Bool.true_and, decide_eq_true_eq]
      exact Registers.get_set _ _ v _
    | false =>
      refine ⟨rfl, rfl, rfl, rfl, rfl, fun v => ?_⟩
      simp only [contentsAfter, sets, Bool.false_and, Bool.false_eq_true, if_false]
      rfl
  | alu op x y =>
    cases ran
    exact ⟨rfl, rfl, rfl, rfl, m.registers.index_operate d op x y, fun _ => rfl⟩
  | awaitKey x =>
    cases ran
    exact ⟨rfl, rfl, rfl, rfl, rfl, fun _ => rfl⟩
  | loadByte x byte =>
    cases ran
    exact ⟨rfl, rfl, rfl, rfl, rfl, fun v => Registers.get_set _ x v _⟩
  | addByte x byte =>
    cases ran
    exact ⟨rfl, rfl, rfl, rfl, rfl, fun v => Registers.get_set _ x v _⟩
  | random x mask =>
    cases ran
    exact ⟨rfl, rfl, rfl, rfl, rfl, fun v => Registers.get_set _ x v _⟩
  | readDelay x =>
    cases ran
    exact ⟨rfl, rfl, rfl, rfl, rfl, fun v => Registers.get_set _ x v _⟩
  | _ =>
    cases ran
    exact ⟨rfl, rfl, rfl, rfl, rfl, fun _ => rfl⟩

end Machine

end Chip8
