import Chip8.Machine.Interpreter
import Mathlib.Data.List.FinRange

/-!
# Work and its result

An interpreter works an instruction off write by write and keeps what it has written when a fault
ends the work. Main statement: the work comes to what `Machine.execute` says at once, and every
check stands in front of the first write, so a fault leaves the interpreter exactly as it was.
-/

namespace Chip8

/-- Whether an instruction marks the screen to be shown again. -/
def Instruction.redraws : Instruction → Bool
  | .clear | .draw .. => true
  | _ => false

/-- The number of random bytes that an instruction takes. -/
def Instruction.takes : Instruction → Nat
  | .random .. => 1
  | _ => 0

/-- The interpreter after an instruction, all at once. -/
def Interpreter.execute (i : Interpreter) (instruction : Instruction) : Except Fault Interpreter :=
  (i.machine.execute i.dialect (i.chance i.taken) instruction).map fun machine =>
    { i with
      machine := machine
      taken := i.taken + instruction.takes
      redraw := instruction.redraws || i.redraw }

namespace Registers

/-- Registers are known by their contents, the index register and the program counter. -/
theorem ext_get {r s : Registers} (same : ∀ x, r.get x = s.get x) (index : r.index = s.index)
    (pc : r.pc = s.pc) : r = s := by
  cases r with
  | mk v i p =>
    cases s with
    | mk v' i' p' =>
      simp only at index pc
      subst index pc
      congr 1
      apply Vector.ext
      intro k hk
      exact same ⟨k, hk⟩

/-- Replaces the contents of registers one after the other, until the bytes run out. -/
def setEach (r : Registers) : List Register → List UInt8 → Registers
  | x :: xs, byte :: bytes => (r.set x byte).setEach xs bytes
  | _, _ => r

/-- Replacing contents leaves the index register and the program counter alone. -/
theorem setEach_pointers (r : Registers) (xs : List Register) (bytes : List UInt8) :
    (r.setEach xs bytes).index = r.index ∧ (r.setEach xs bytes).pc = r.pc := by
  induction xs generalizing r bytes with
  | nil => exact ⟨rfl, rfl⟩
  | cons x xs ih =>
    cases bytes with
    | nil => exact ⟨rfl, rfl⟩
    | cons byte bytes => exact ih (r.set x byte) bytes

/-- A register that is not named keeps its contents. -/
theorem get_setEach_of_notMem (r : Registers) (xs : List Register) (bytes : List UInt8)
    (y : Register) (absent : y ∉ xs) : (r.setEach xs bytes).get y = r.get y := by
  induction xs generalizing r bytes with
  | nil => rfl
  | cons x xs ih =>
    rw [List.mem_cons, not_or] at absent
    cases bytes with
    | nil => rfl
    | cons byte bytes =>
      rw [setEach, ih _ _ absent.2, get_set, if_neg (Ne.symm absent.1)]

/-- Of registers that are named once each, the `k`-th holds the `k`-th byte. -/
theorem get_setEach (r : Registers) (xs : List Register) (bytes : List UInt8) (once : xs.Nodup)
    (k : Nat) (inside : k < xs.length) :
    (r.setEach xs bytes).get xs[k] = bytes.getD k (r.get xs[k]) := by
  induction xs generalizing r bytes k with
  | nil => simp at inside
  | cons x xs ih =>
    rw [List.nodup_cons] at once
    cases bytes with
    | nil => simp [setEach]
    | cons byte bytes =>
      cases k with
      | zero => simp [setEach, get_setEach_of_notMem _ _ _ _ once.1, get_set]
      | succ k =>
        have within : k < xs.length := by simpa using inside
        have other : x ≠ xs[k] := fun same => once.1 (same ▸ List.getElem_mem within)
        simp only [setEach, List.getElem_cons_succ, List.getD_cons_succ]
        rw [ih _ _ once.2 k within, get_set, if_neg other]

/-- Replacing all registers in order, as far as the bytes reach, replaces the first ones. -/
theorem setEach_finRange (r : Registers) (bytes : List UInt8) :
    r.setEach (List.finRange 16) bytes = r.setFirst bytes := by
  have pointers := setEach_pointers r (List.finRange 16) bytes
  apply ext_get
  · intro x
    have entry := get_setEach r (List.finRange 16) bytes (List.nodup_finRange 16) x.val (by simp)
    simpa using entry
  · rw [pointers.1, setFirst]
  · rw [pointers.2, setFirst]

/-- Loading registers leaves the program counter alone. -/
theorem pc_setFirst (r : Registers) (bytes : List UInt8) : (r.setFirst bytes).pc = r.pc := by
  rw [setFirst]

/-- An operation on two registers leaves the program counter alone. -/
theorem pc_operate (r : Registers) (d : Dialect) (op : AluOp) (x y : Register) :
    (r.operate d op x y).pc = r.pc := by
  simp only [operate]
  cases (op.result d (r.get x) (r.get y)).flag with
  | none => rfl
  | some flag => rfl

end Registers

/-- Going on where the program counter already points changes nothing. -/
theorem Machine.goTo_pc (m : Machine) : m.goTo m.pc = m := by
  have kept : UInt16.ofInt (m.registers.pc.toNat : Int) = m.registers.pc := by
    apply UInt16.toNat_inj.mp
    have small := m.registers.pc.toNat_lt
    simp only [UInt16.ofInt, UInt16.toNat_ofNat']
    omega
  rw [goTo, pc, Registers.setPC, kept]

/-- A change of registers that spares the program counter leaves the next address as it is. -/
theorem Machine.advance_registers (m : Machine) (r : Registers)
    (kept : r.pc = m.registers.pc) :
    advance { m with registers := r } = goTo { m with registers := r } (m.pc + 2) := by
  simp only [advance, nextPC, pc, kept]

/-- Moving the index register behind a block changes no register but that one. -/
theorem Machine.passBlock_registers (m : Machine) (d : Dialect) (x : Register) :
    ∃ r : Registers, r.pc = m.registers.pc ∧ m.passBlock d x = { m with registers := r } := by
  unfold passBlock
  split
  · exact ⟨m.registers.setIndex _, rfl, rfl⟩
  · exact ⟨m.registers, rfl, rfl⟩

/-- After the index register has moved, the program goes on behind the instruction. -/
theorem Machine.advance_passBlock (m : Machine) (d : Dialect) (x : Register) :
    (m.passBlock d x).advance = (m.passBlock d x).goTo (m.pc + 2) := by
  obtain ⟨r, kept, moved⟩ := m.passBlock_registers d x
  rw [moved]
  exact m.advance_registers r kept

namespace Work

/-! ### What the pieces do -/

variable {α : Type}

@[simp] theorem run_machine (i : Interpreter) : machine.run i = .ok i.machine i := rfl

@[simp] theorem run_dialect (i : Interpreter) : dialect.run i = .ok i.dialect i := rfl

@[simp] theorem run_change (f : Machine → Machine) (i : Interpreter) :
    (change f).run i = .ok () (i.onMachine f) := rfl

@[simp] theorem run_demand_ok (answer : α) (i : Interpreter) :
    (demand (.ok answer)).run i = .ok answer i := rfl

@[simp] theorem run_load (x : Register) (i : Interpreter) :
    (load x).run i = .ok (i.machine.registers.get x) i := rfl

@[simp] theorem run_store (x : Register) (byte : UInt8) (i : Interpreter) :
    (store x byte).run i = .ok () (i.onMachine fun m => m.setRegister x byte) := rfl

@[simp] theorem run_storeIndex (value : Int) (i : Interpreter) :
    (storeIndex value).run i = .ok () (i.onMachine fun m => m.setIndex value) := rfl

@[simp] theorem run_passBlock (x : Register) (i : Interpreter) :
    (passBlock x).run i = .ok () (i.onMachine fun m => m.passBlock i.dialect x) := rfl

@[simp] theorem run_storeFlag (flag : Option UInt8) (i : Interpreter) :
    (storeFlag flag).run i =
      .ok () (i.onMachine fun m => { m with registers := m.registers.setFlag flag }) := by
  cases flag with
  | none => rfl
  | some byte => rfl

@[simp] theorem run_storeEach (xs : List Register) (bytes : List UInt8) (i : Interpreter) :
    (storeEach xs bytes).run i =
      .ok () (i.onMachine fun m => { m with registers := m.registers.setEach xs bytes }) := by
  induction xs generalizing bytes i with
  | nil => rfl
  | cons x xs ih =>
    cases bytes with
    | nil => rfl
    | cons byte bytes =>
      rw [storeEach, EStateM.run_bind, run_store]
      exact ih bytes _

/-! ### What the work on an instruction comes to -/

/-- How the work on an instruction ends that has been found to come to the given result. -/
def ending (i : Interpreter) : Except Fault Interpreter → EStateM.Result Fault Interpreter Unit
  | .ok next => .ok () next
  | .error fault => .error fault i

/-- Working an instruction off comes to what executing it at once comes to, and a fault leaves the
interpreter as it was. -/
theorem carryOut_run (instruction : Instruction) (i : Interpreter) :
    (carryOut instruction).run i = ending i (i.execute instruction) := by
  cases instruction with
  | ret =>
    simp only [carryOut, effect, EStateM.run_bind, run_machine, Interpreter.execute,
      Machine.execute]
    cases i.machine.stack.pop with
    | error fault => rfl
    | ok top => rfl
  | call target =>
    simp only [carryOut, effect, EStateM.run_bind, run_machine, Interpreter.execute,
      Machine.execute, Machine.nextPC]
    cases i.machine.stack.push (i.machine.pc + 2) with
    | error fault => rfl
    | ok stack => rfl
  | skip condition =>
    simp only [carryOut, effect, EStateM.run_bind, run_machine, EStateM.run_pure, run_change,
      Interpreter.execute, Machine.execute]
    cases i.machine.satisfies condition with
    | false =>
      rw [if_neg Bool.false_ne_true, if_neg Bool.false_ne_true]
      rfl
    | true =>
      rw [if_pos rfl, if_pos rfl]
      rfl
  | addIndex x =>
    simp only [carryOut, effect, EStateM.run_bind, run_machine, run_load, run_dialect,
      run_storeIndex, Interpreter.execute, Machine.execute, Machine.addIndex,
      Interpreter.onMachine]
    cases i.dialect.indexSetsFlag with
    | false => rfl
    | true => rfl
  | storeDecimal x =>
    simp only [carryOut, effect, writeBlock, EStateM.run_bind, run_machine, run_load,
      Interpreter.execute, Machine.execute]
    cases i.machine.memory.writeBytes i.machine.blockStart
      (Machine.decimalDigits (i.machine.registers.get x)) with
    | error fault => rfl
    | ok memory => rfl
  | storeRegisters x =>
    simp only [carryOut, effect, writeBlock, EStateM.run_bind, run_machine, Interpreter.execute,
      Machine.execute]
    cases i.machine.memory.writeBytes i.machine.blockStart
      (i.machine.registers.firstThrough x) with
    | error fault => rfl
    | ok memory =>
      simp only [run_demand_ok, run_change, run_passBlock, Except.map, Machine.advance_passBlock,
        EStateM.run_pure, Interpreter.onMachine, ending]
      rfl
  | loadRegisters x =>
    simp only [carryOut, effect, readBlock, EStateM.run_bind, run_machine, Interpreter.execute,
      Machine.execute]
    cases i.machine.memory.readBlock i.machine.blockStart (x + 1 : Nat) with
    | error fault => rfl
    | ok bytes =>
      simp only [run_demand_ok, run_storeEach, Registers.setEach_finRange, run_passBlock,
        Except.map, Machine.advance_passBlock, Machine.pc, Registers.pc_setFirst,
        EStateM.run_pure, run_change, Interpreter.onMachine, ending]
      rfl
  | draw x y rows =>
    simp only [carryOut, effect, readBlock, EStateM.run_bind, run_machine, Interpreter.execute,
      Machine.execute]
    cases i.machine.memory.readBlock i.machine.blockStart rows with
    | error fault => rfl
    | ok bytes => rfl
  | alu op x y =>
    simp only [carryOut, effect, EStateM.run_bind, run_machine, run_dialect, run_load, run_store,
      run_storeFlag, EStateM.run_pure, run_change, Interpreter.execute, Machine.execute, Except.map,
      Machine.advance, Machine.nextPC, Machine.pc, Registers.pc_operate, ending]
    rfl
  | awaitKey x =>
    have stays := Machine.goTo_pc (i.machine.awaitKey x)
    simp only [Interpreter.execute, Machine.execute, Except.map]
    rw [← stays]
    rfl
  | _ => rfl

end Work

end Chip8
