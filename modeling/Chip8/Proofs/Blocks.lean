import Chip8.Proofs.Performing

/-!
# Blocks of registers in memory

`FX55` stores the registers from `V0` to `VX` where the low twelve bits of the index register point,
and `FX65` loads them from there. The one writes a block at once and the other fills register after
register. Main statement: both succeed exactly when the block ends in memory, each undoes what the
other has done, and neither touches what lies beside the block; `FX33` stores the decimal digits of
a register by the same addressing.
-/

namespace Chip8

/-- Memory is known by its bytes. -/
theorem Memory.ext_byteAt {m n : Memory} (same : ∀ a, m.byteAt a = n.byteAt a) : m = n := by
  cases m with
  | mk cells =>
    cases n with
    | mk cells' =>
      congr 1
      apply Vector.ext
      intro a inside
      have byte := same a
      simp only [Memory.byteAt, Vector.getElem?_eq_getElem inside, Option.getD_some] at byte
      exact byte

/-- The registers from `V0` to `x` in their order. -/
theorem Registers.getD_firstThrough (r : Registers) {x v : Register} (first : v ≤ x) :
    (r.firstThrough x).getD v 0 = r.get v := by
  have bound := v.isLt
  have within : v.val < x.val + 1 := Nat.lt_succ_of_le first
  rw [firstThrough, List.getD_eq_getElem?_getD, List.getElem?_take_of_lt within,
    ← List.getD_eq_getElem?_getD]
  simp [get]

namespace Machine

/-- The index register after a block of the registers from `V0` to `x`: behind the block, cut to
sixteen bits, where the dialect wants it, and otherwise where it was. -/
def PassesBlock (d : Dialect) (x : Register) (m next : Machine) : Prop :=
  next.registers.index.toNat =
    if d.blockMovesIndex then (m.registers.index.toNat + x + 1) % 65536
    else m.registers.index.toNat

/-- What storing the registers from `V0` to `x` leaves. -/
structure Dumped (d : Dialect) (x : Register) (m next : Machine) : Prop where
  inside : ∀ v ≤ x, next.memory.byteAt (m.blockStart + v) = m.registers.get v
  beside : ∀ a, a < m.blockStart ∨ m.blockStart + x < a →
    next.memory.byteAt a = m.memory.byteAt a
  index : PassesBlock d x m next

/-- What loading the registers from `V0` to `x` leaves. -/
structure Loaded (d : Dialect) (x : Register) (m next : Machine) : Prop where
  filled : ∀ v ≤ x, next.registers.get v = m.memory.byteAt (m.blockStart + v)
  kept : ∀ v, x < v → next.registers.get v = m.registers.get v
  memory : next.memory = m.memory
  index : PassesBlock d x m next

/-- What storing the decimal digits of the register `x` leaves. -/
structure Spelled (x : Register) (m next : Machine) : Prop where
  digits : ∃ h t o : Nat, h ≤ 9 ∧ t ≤ 9 ∧ o ≤ 9 ∧
    100 * h + 10 * t + o = (m.registers.get x).toNat ∧
    (next.memory.byteAt m.blockStart).toNat = h ∧
    (next.memory.byteAt (m.blockStart + 1)).toNat = t ∧
    (next.memory.byteAt (m.blockStart + 2)).toNat = o
  beside : ∀ a, a < m.blockStart ∨ m.blockStart + 2 < a →
    next.memory.byteAt a = m.memory.byteAt a
  index : next.registers.index = m.registers.index

variable {m next : Machine} {d : Dialect} {chance : UInt8} {x : Register}

/-- The index register passes a block by as many addresses as the block has registers. -/
theorem passesBlock_of_indexBehind
    (index : next.registers.index = d.indexBehind m.registers.index x) :
    PassesBlock d x m next := by
  rw [PassesBlock, index, Dialect.indexBehind]
  cases d.blockMovesIndex with
  | true =>
    rw [if_pos rfl, if_pos rfl]
    simp only [UInt16.ofInt, UInt16.toNat_ofNat']
    omega
  | false => rw [if_neg Bool.false_ne_true, if_neg Bool.false_ne_true]

/-- A byte of a block that ends in memory is the one that is written there. -/
theorem byteAt_block (bytes : List UInt8) (k : Nat) (within : k < bytes.length)
    (inside : m.blockStart + bytes.length ≤ 4096) :
    (m.memory.putAll m.blockStart bytes).byteAt (m.blockStart + k) = bytes.getD k 0 := by
  rw [Memory.byteAt_putAll, if_pos (by omega), Nat.add_sub_cancel_left]

/-- A byte beside a block stays. -/
theorem byteAt_beside (bytes : List UInt8) {a : Nat}
    (beside : a < m.blockStart ∨ m.blockStart + bytes.length ≤ a) :
    (m.memory.putAll m.blockStart bytes).byteAt a = m.memory.byteAt a := by
  rw [Memory.byteAt_putAll, if_neg (by omega)]

/-- Storing registers leaves them in the block. -/
theorem Stored.dumped (stored : Stored m d chance (.storeRegisters x) next)
    (inside : m.blockStart + (x + 1) ≤ 4096) : Dumped d x m next := by
  have length := m.registers.length_firstThrough x
  have memory : next.memory = m.memory.putAll m.blockStart (m.registers.firstThrough x) :=
    stored.memory
  refine ⟨?_, ?_, passesBlock_of_indexBehind stored.index⟩
  · intro v first
    have within : v.val ≤ x.val := first
    rw [memory, byteAt_block _ v (by omega) (by omega), Registers.getD_firstThrough _ first]
  · intro a beside
    rw [memory, byteAt_beside _ (by omega)]

/-- Loading registers leaves the bytes of the block in them. -/
theorem Stored.loaded (stored : Stored m d chance (.loadRegisters x) next) : Loaded d x m next := by
  refine ⟨?_, ?_, stored.memory, passesBlock_of_indexBehind stored.index⟩
  · intro v first
    rw [stored.registers, contentsAfter, if_pos first]
  · intro v rest
    rw [stored.registers, contentsAfter, if_neg (not_le.mpr rest)]

/-- Storing registers that already hold the bytes of the block changes no byte. -/
theorem Dumped.memory_eq (dumped : Dumped d x m next)
    (held : ∀ v ≤ x, m.registers.get v = m.memory.byteAt (m.blockStart + v)) :
    next.memory = m.memory := by
  have small := x.isLt
  apply Memory.ext_byteAt
  intro a
  by_cases within : m.blockStart ≤ a ∧ a ≤ m.blockStart + x
  · obtain ⟨k, rfl⟩ : ∃ k, a = m.blockStart + k := ⟨a - m.blockStart, by omega⟩
    let v : Register := ⟨k, by omega⟩
    have first : v ≤ x := by
      change k ≤ x.val
      omega
    exact (dumped.inside v first).trans (held v first)
  · exact dumped.beside a (by omega)

/-- The decimal digits of a byte, as numbers. -/
theorem decimalDigits_toNat (byte : UInt8) :
    (decimalDigits byte).map UInt8.toNat =
      [byte.toNat / 100, byte.toNat / 10 % 10, byte.toNat % 10] := by
  simp only [decimalDigits, List.map_cons, List.map_nil, UInt8.toNat_div, UInt8.toNat_mod]
  rfl

/-- Storing the digits of a register leaves them in three bytes. -/
theorem Stored.spelled (stored : Stored m d chance (.storeDecimal x) next)
    (inside : m.blockStart + 3 ≤ 4096) : Spelled x m next := by
  have bound := (m.registers.get x).toNat_lt
  have memory : next.memory =
      m.memory.putAll m.blockStart (decimalDigits (m.registers.get x)) := stored.memory
  have written : ∀ k < 3, (next.memory.byteAt (m.blockStart + k)).toNat =
      ((decimalDigits (m.registers.get x)).map UInt8.toNat).getD k 0 := by
    intro k within
    rw [memory, byteAt_block (decimalDigits (m.registers.get x)) k within inside]
    exact (List.getD_map _ _ _).symm
  rw [decimalDigits_toNat] at written
  refine ⟨⟨_, _, _, ?_, ?_, ?_, ?_, written 0 (by decide), written 1 (by decide),
    written 2 (by decide)⟩, ?_, stored.index⟩
  · change (m.registers.get x).toNat / 100 ≤ 9
    omega
  · change (m.registers.get x).toNat / 10 % 10 ≤ 9
    omega
  · change (m.registers.get x).toNat % 10 ≤ 9
    omega
  · change 100 * ((m.registers.get x).toNat / 100) + 10 * ((m.registers.get x).toNat / 10 % 10) +
      (m.registers.get x).toNat % 10 = (m.registers.get x).toNat
    omega
  · intro a beside
    rw [memory, byteAt_beside _ (by change _ ∨ m.blockStart + 3 ≤ a; omega)]

end Machine

namespace Interpreter

open Instruction (wordOfByte)

variable (i : Interpreter) (x : Register)

/-- The word of an instruction with a block is executed exactly when the block ends in memory. -/
theorem performWord_block (instruction : Instruction) (block : 0 < instruction.blockLength) :
    let o := i.performWord instruction.word
    (o.answer = .ok () ↔ i.machine.blockStart + instruction.blockLength ≤ 4096) ∧
    (o.answer = .ok () → Machine.Stored i.machine i.dialect (i.chance i.taken) instruction
      o.interpreter.machine) := by
  have proper : instruction.Proper := by
    cases instruction with
    | hostRoutine address => exact absurd block (Nat.lt_irrefl 0)
    | _ => trivial
  have free : i.machine.obstacle instruction = none ↔
      i.machine.blockStart + instruction.blockLength ≤ 4096 := by
    cases instruction with
    | ret => exact absurd block (Nat.lt_irrefl 0)
    | call target => exact absurd block (Nat.lt_irrefl 0)
    | _ => exact i.machine.block_free_iff _
  rw [performWord_word i instruction proper]
  exact ⟨(perform_done_iff i instruction).trans free, stored_of_done⟩

/-- Storing registers and loading them are inverse, whatever the machine, the registers and the
dialect. With the block at `a`, storing succeeds exactly when the block ends in memory. Loading in
any later state in which the bytes of the block are the same and the index register points there
succeeds too, and gives the registers back what they held; storing what has been loaded changes no
byte. The digits of a register are stored by the same addressing. -/
theorem performWord_dump_load (i : Interpreter) (x : Register) :
    let m := i.machine
    let a := m.registers.index.toNat % 4096
    let dump := i.performWord (wordOfByte 0xF x 0x55)
    let load := i.performWord (wordOfByte 0xF x 0x65)
    let spell := i.performWord (wordOfByte 0xF x 0x33)
    (dump.answer = .ok () ↔ a + x + 1 ≤ 4096) ∧
    (dump.answer = .ok () →
      m.Dumped i.dialect x dump.interpreter.machine ∧
      ∀ j : Interpreter, j.machine.registers.index.toNat % 4096 = a →
        (∀ v ≤ x, j.machine.memory.byteAt (a + v) =
          dump.interpreter.machine.memory.byteAt (a + v)) →
        let back := j.performWord (wordOfByte 0xF x 0x65)
        back.answer = .ok () ∧ j.machine.Loaded j.dialect x back.interpreter.machine ∧
          ∀ v ≤ x, back.interpreter.machine.registers.get v = m.registers.get v) ∧
    (load.answer = .ok () →
      ∀ j : Interpreter, j.machine.registers.index.toNat % 4096 = a →
        j.machine.memory = load.interpreter.machine.memory →
        (∀ v ≤ x, j.machine.registers.get v = load.interpreter.machine.registers.get v) →
        let again := j.performWord (wordOfByte 0xF x 0x55)
        again.answer = .ok () ∧ again.interpreter.machine.memory = m.memory) ∧
    (spell.answer = .ok () ↔ a + 3 ≤ 4096) ∧
    (spell.answer = .ok () → m.Spelled x spell.interpreter.machine) := by
  intro m a dump load spell
  have registers : 0 < (x + 1 : Nat) := Nat.succ_pos x
  -- What the words do, on this interpreter and on a later one.
  have dumps := fun j => performWord_block j (.storeRegisters x) registers
  have loads := fun j => performWord_block j (.loadRegisters x) registers
  have spells := performWord_block i (.storeDecimal x) (Nat.succ_pos 2)
  have dumped := fun done => ((dumps i).2 done).dumped ((dumps i).1.mp done)
  have spelled := fun done => (spells.2 done).spelled (spells.1.mp done)
  refine ⟨(dumps i).1, fun done => ⟨dumped done, ?_⟩, fun done => ?_, spells.1, spelled⟩
  · intro j here same back
    have start : j.machine.blockStart = a := here
    have inside : j.machine.blockStart + (x + 1) ≤ 4096 := start ▸ (dumps i).1.mp done
    have succeeds : back.answer = .ok () := (loads j).1.mpr inside
    have loaded : j.machine.Loaded j.dialect x back.interpreter.machine :=
      ((loads j).2 succeeds).loaded
    refine ⟨succeeds, loaded, fun v first => ?_⟩
    calc back.interpreter.machine.registers.get v
        = j.machine.memory.byteAt (a + v) := start ▸ loaded.filled v first
      _ = dump.interpreter.machine.memory.byteAt (a + v) := same v first
      _ = m.registers.get v := (dumped done).inside v first
  · intro j here memory same again
    have start : j.machine.blockStart = a := here
    have inside : j.machine.blockStart + (x + 1) ≤ 4096 := start ▸ (loads i).1.mp done
    have succeeds : again.answer = .ok () := (dumps j).1.mpr inside
    have loaded : m.Loaded i.dialect x load.interpreter.machine := ((loads i).2 done).loaded
    have held : ∀ v ≤ x, j.machine.registers.get v =
        j.machine.memory.byteAt (j.machine.blockStart + v) := by
      intro v first
      rw [same v first, memory, loaded.memory, start]
      exact loaded.filled v first
    have kept := (((dumps j).2 succeeds).dumped inside).memory_eq held
    exact ⟨succeeds, kept.trans (memory.trans loaded.memory)⟩

/-- With the index register at `3FFE`, two registers fill the end of memory, and the index register
moves behind them. From `1FFE`, which points to the same block, they come back into a machine that
has lost them. -/
theorem performWord_dump_load_end :
    let i : Interpreter := {
      machine := ((Machine.initial.setIndex 0x3FFE).setRegister 0 5).setRegister 1 7 }
    let dump := i.performWord (wordOfByte 0xF 1 0x55)
    let j := dump.interpreter.onMachine fun m =>
      ((m.setIndex 0x1FFE).setRegister 0 0).setRegister 1 0
    let back := j.performWord (wordOfByte 0xF 1 0x65)
    dump.answer = .ok () ∧ dump.interpreter.machine.registers.index = 0x4000 ∧
      back.answer = .ok () ∧ back.interpreter.machine.registers.get 1 = 7 := by
  intro i dump j back
  obtain ⟨dumps, dumped, -⟩ := performWord_dump_load i 1
  have done : dump.answer = .ok () := dumps.mpr (by decide +kernel)
  obtain ⟨stored, loads⟩ := dumped done
  have moved : dump.interpreter.machine.registers.index.toNat = 0x4000 :=
    stored.index.trans (by decide +kernel)
  have points : j.machine.registers.index.toNat % 4096 =
      i.machine.registers.index.toNat % 4096 := by decide +kernel
  have spared : ∀ o : Interpreter, (o.onMachine fun m =>
      ((m.setIndex 0x1FFE).setRegister 0 0).setRegister 1 0).machine.memory = o.machine.memory :=
    fun _ => rfl
  have memory : j.machine.memory = dump.interpreter.machine.memory := spared dump.interpreter
  obtain ⟨succeeds, -, same⟩ := loads j points fun v _ => by rw [memory]
  have held : i.machine.registers.get 1 = 7 := by decide +kernel
  exact ⟨done, UInt16.toNat_inj.mp moved, succeeds, (same 1 (le_refl 1)).trans held⟩

end Interpreter

end Chip8
