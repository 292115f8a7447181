import Chip8.Proofs.Invariant

/-!
# Which steps fault

The condition under which the next step of a running machine ends in a fault, and the fault, read
off the word at the program counter and the state in front of it. Main statement: a reachable
running machine faults exactly then and exactly so, and a fault changes nothing but that the machine
has stopped at it; an instruction that is executed out of turn changes nothing at all if it faults.
Registers and screen, which can refuse what they are asked for, refuse nothing that the machine asks
of them.
-/

namespace Chip8

/-- The fault that the next step of a running machine ends in. -/
inductive Machine.NextFault (m : Machine) : Fault → Prop
  /-- No word begins at the program counter. -/
  | beyondMemory (beyond : 0xFFE < m.pc) : NextFault m (.outOfBounds (max m.pc 0x1000))
  /-- The word is that of no instruction. -/
  | noInstruction (inside : m.pc ≤ 0xFFE)
      (unknown : ∀ instruction, Instruction.word instruction ≠ m.word) :
      NextFault m (.invalidOpcode m.word.toNat m.pc)
  | callTooDeep (inside : m.pc ≤ 0xFFE) (target : Address)
      (word : Instruction.word (.call target) = m.word) (full : m.stack.depth = 16) :
      NextFault m (.stackOverflow 17)
  | returnWithoutCall (inside : m.pc ≤ 0xFFE) (word : Instruction.word .ret = m.word)
      (empty : m.stack.frames = []) : NextFault m .stackUnderflow
  /-- The block that the instruction reads or writes ends beyond memory. -/
  | blockBeyondMemory (inside : m.pc ≤ 0xFFE) (instruction : Instruction)
      (word : instruction.word = m.word)
      (beyond : 4096 < m.registers.index.toNat % 4096 + instruction.blockLength) :
      NextFault m (.outOfBounds 0x1000)

/-! ### What is not refused -/

/-- Bytes are rows of a sprite. -/
theorem spriteRows_bytes (rows : List UInt8) :
    spriteRows (rows.map fun byte => (byte.toNat : Int)) = .ok rows := by
  have bytes : (rows.map fun byte => (byte.toNat : Int)).all
      (fun v => decide (0 ≤ v) && decide (v < 256)) = true := by
    rw [List.all_map, List.all_eq_true]
    intro byte member
    have bound := byte.toNat_lt
    simp only [Function.comp_apply, Bool.and_eq_true, decide_eq_true_eq]
    omega
  have back : (rows.map fun byte => (byte.toNat : Int)).map UInt8.ofInt = rows := by
    rw [List.map_map]
    conv_rhs => rw [← List.map_id rows]
    apply List.map_congr_left
    intro byte member
    have bound := byte.toNat_lt
    apply UInt8.toNat_inj.mp
    simp only [Function.comp_apply, UInt8.ofInt, UInt8.toNat_ofNat', id]
    omega
  rw [spriteRows, if_pos bytes, back]

/-- A byte is a coordinate. -/
theorem Signed.ofInt?_byte (byte : UInt8) :
    Signed.ofInt? byte.toNat = some (Int64.ofNat byte.toNat) := by
  have bound := byte.toNat_lt
  have fit : fits byte.toNat = true := by
    simp only [fits, Bool.and_eq_true, decide_eq_true_eq]
    omega
  rw [ofInt?, if_pos fit]
  rfl

/-- The number of a register names it. -/
theorem Register.ofInt_val (x : Register) : Register.ofInt x.val = .ok x := by
  have bound := x.isLt
  have fit : Signed.fits x.val = true := by
    simp only [Signed.fits, Bool.and_eq_true, decide_eq_true_eq]
    omega
  have named : Nibble.ofInt? x.val = some x := Key.ofInt?_key x
  rw [Register.ofInt, if_pos fit, if_neg (by omega), named]

/-- What the machine asks of registers and screen, which can refuse, is what it is given without
asking. -/
structure Machine.NotRefused (m : Machine) : Prop where
  read : ∀ x : Register, m.registers.read x.val = .ok (m.registers.get x)
  write : ∀ (x : Register) (value : Int),
    m.registers.write x.val value = .ok (m.registers.set x (UInt8.ofInt value))
  draw : ∀ (column row : UInt8) (rows : List UInt8),
    m.screen.tryDraw column.toNat row.toNat (rows.map fun byte => (byte.toNat : Int)) =
      .ok (m.spriteCollides column row rows, (m.paintSprite column row rows).screen)

/-- Nothing that the machine asks for is refused. -/
theorem Machine.notRefused (m : Machine) : m.NotRefused where
  read x := by
    rw [Registers.read, Register.ofInt_val]
    rfl
  write x value := by
    rw [Registers.write, Register.ofInt_val]
    rfl
  draw column row rows := by
    rw [Picture.tryDraw, spriteRows_bytes, Signed.ofInt?_byte, Signed.ofInt?_byte]
    cases rows with
    | nil => rfl
    | cons first rest =>
      have tall : 0 < 32 := by decide
      have wide : 0 < 64 := by decide
      simp only [dif_pos tall, dif_pos wide, Machine.spriteCollides, Machine.paintSprite]

/-! ### The next fault -/

namespace Machine

/-- What stands in the way of an instruction other than a call and a return is its block. -/
theorem obstacle_of_blockLength {m : Machine} {instruction : Instruction}
    (beyond : 4096 < m.blockStart + instruction.blockLength) :
    m.obstacle instruction = some (.outOfBounds 4096) := by
  have inside := m.blockStart_lt
  cases instruction with
  | ret => exact absurd beyond (by simp only [Instruction.blockLength]; omega)
  | call target => exact absurd beyond (by simp only [Instruction.blockLength]; omega)
  | _ => exact if_pos beyond

/-- An instruction with a block is no routine of the host. -/
theorem proper_of_blockLength {m : Machine} {instruction : Instruction}
    (beyond : 4096 < m.blockStart + instruction.blockLength) : instruction.Proper := by
  have inside := m.blockStart_lt
  cases instruction with
  | hostRoutine address => exact absurd beyond (by simp only [Instruction.blockLength]; omega)
  | _ => trivial

/-- What stands in the way of the instruction at the program counter is the next fault. -/
theorem nextFault_of_obstacle {m : Machine} {instruction : Instruction} {fault : Fault}
    (inside : m.pc ≤ 0xFFE) (shallow : m.stack.depth ≤ 16) (word : instruction.word = m.word)
    (stuck : m.obstacle instruction = some fault) : m.NextFault fault := by
  cases instruction with
  | ret =>
    obtain ⟨empty, ⟨⟩⟩ := Option.ite_none_right_eq_some.mp stuck
    exact .returnWithoutCall inside word empty
  | call target =>
    obtain ⟨full, found⟩ := Option.ite_none_right_eq_some.mp stuck
    have depth : m.stack.depth = 16 := le_antisymm shallow full
    rw [depth] at found
    cases found
    exact .callTooDeep inside target word depth
  | _ =>
    obtain ⟨beyond, ⟨⟩⟩ := Option.ite_none_right_eq_some.mp stuck
    exact .blockBeyondMemory inside _ word beyond

end Machine

namespace Interpreter

/-- The fault of a step comes from the program counter, from the word there, or from what stands in
the way of the instruction. -/
theorem stepFault_eq (i : Interpreter) :
    i.stepFault =
      if 0xFFE < i.machine.pc then some (.outOfBounds (max i.machine.pc 0x1000))
      else match Instruction.ofWord? i.machine.word with
        | none => some (.invalidOpcode i.machine.word.toNat i.machine.pc)
        | some instruction => i.machine.obstacle instruction := by
  rw [stepFault, peek, fetch_eq]
  by_cases beyond : 0xFFE < i.machine.pc
  · rw [if_pos beyond, if_pos beyond]
  · rw [if_neg beyond, if_neg beyond]
    simp only [Instruction.decode]
    cases Instruction.ofWord? i.machine.word with
    | none => rfl
    | some instruction => rfl

/-- With at most sixteen return addresses, the fault of a step is the next fault. -/
theorem stepFault_eq_some_iff {i : Interpreter} (shallow : i.machine.stack.depth ≤ 16)
    (fault : Fault) : i.stepFault = some fault ↔ i.machine.NextFault fault := by
  rw [stepFault_eq]
  by_cases beyond : 0xFFE < i.machine.pc
  · rw [if_pos beyond]
    constructor
    · intro found
      cases found
      exact .beyondMemory beyond
    · intro next
      cases next with
      | beyondMemory _ => rfl
      | noInstruction inside _ => omega
      | callTooDeep inside _ _ _ => omega
      | returnWithoutCall inside _ _ => omega
      | blockBeyondMemory inside _ _ _ => omega
  · have inside : i.machine.pc ≤ 0xFFE := Int.not_lt.mp beyond
    rw [if_neg beyond]
    constructor
    · intro found
      cases decoded : Instruction.ofWord? i.machine.word with
      | none =>
        rw [decoded] at found
        cases found
        exact .noInstruction inside ((Instruction.ofWord?_eq_none_iff _).mp decoded)
      | some instruction =>
        rw [decoded] at found
        have word := Instruction.word_of_ofWord? decoded
        exact Machine.nextFault_of_obstacle inside shallow word found
    · intro next
      cases next with
      | beyondMemory beyond' => exact absurd beyond' beyond
      | noInstruction _ unknown => rw [(Instruction.ofWord?_eq_none_iff _).mpr unknown]
      | callTooDeep _ target word full =>
        have decoded : Instruction.ofWord? (Instruction.word (.call target)) =
          some (.call target) := Instruction.ofWord?_word trivial
        rw [← word, decoded]
        simp only [Machine.obstacle, full]
        rfl
      | returnWithoutCall _ word empty =>
        have decoded : Instruction.ofWord? (Instruction.word .ret) = some .ret :=
          Instruction.ofWord?_word trivial
        rw [← word, decoded]
        exact if_pos empty
      | blockBeyondMemory _ instruction word beyond' =>
        rw [← word, Instruction.ofWord?_word (Machine.proper_of_blockLength beyond')]
        exact Machine.obstacle_of_blockLength beyond'

/-- A running machine answers with the fault of its step, and with nothing else that is a fault. -/
theorem step_error_iff {i : Interpreter} (running : i.machine.runState = .running)
    (fault : Fault) : i.step.answer = .error fault ↔ i.stepFault = some fault := by
  cases outcome : i.stepFault with
  | some other =>
    rw [(step_of_stepFault running outcome).1, Except.error.injEq, Option.some.injEq]
  | none =>
    obtain ⟨w, instruction, next, seen, ran⟩ := exists_execute outcome
    rw [(step_of_execute running seen ran).1]
    constructor
    · intro failed
      cases failed
    · intro obstructed
      cases obstructed

/-- A step of a running machine that faults changes nothing but that the machine has stopped. -/
theorem step_of_error {i : Interpreter} (running : i.machine.runState = .running) {fault : Fault}
    (failed : i.step.answer = .error fault) : i.step.interpreter = i.stopped fault :=
  (step_of_stepFault running ((step_error_iff running fault).mp failed)).2

/-- An instruction that is executed out of turn changes nothing if it faults. -/
theorem perform_of_error {i : Interpreter} {instruction : Instruction} {fault : Fault}
    (failed : (i.perform instruction).answer = .error fault) :
    (i.perform instruction).interpreter = i := by
  rw [perform, Work.carryOut_run] at failed ⊢
  cases ran : i.execute instruction with
  | error other =>
    rw [ran] at failed
    rfl
  | ok next =>
    rw [ran] at failed
    cases failed

end Interpreter

namespace Bench

/-- The step of a reachable running machine faults exactly if there is a next fault, and with that
fault, which is never that of a long program; nothing else can be refused on the way. Afterwards the
machine has stopped at the fault and all else is as before; and an instruction that is executed out
of turn, on any interpreter, changes nothing if it faults. -/
theorem step_faults_iff {b : Bench} (reached : b.Reachable)
    (running : b.interpreter.machine.runState = .running) :
    (∀ fault, b.interpreter.step.answer = .error fault ↔
      b.interpreter.machine.NextFault fault) ∧
    (∀ size limit, b.interpreter.step.answer ≠ .error (.romTooLarge size limit)) ∧
    b.interpreter.machine.NotRefused ∧
    (∀ fault, b.interpreter.step.answer = .error fault →
      b.interpreter.step.interpreter = b.interpreter.stopped fault) ∧
    (∀ (i : Interpreter) (instruction : Instruction) (fault : Fault),
      (i.perform instruction).answer = .error fault →
      (i.perform instruction).interpreter = i) := by
  have shallow := reached.sound.machine.depth_le
  have exactly : ∀ fault, b.interpreter.step.answer = .error fault ↔
      b.interpreter.machine.NextFault fault := by
    intro fault
    rw [Interpreter.step_error_iff running, Interpreter.stepFault_eq_some_iff shallow]
  refine ⟨exactly, ?_, b.interpreter.machine.notRefused, ?_, ?_⟩
  · intro size limit failed
    cases (exactly _).mp failed
  · intro fault failed
    exact Interpreter.step_of_error running failed
  · intro i instruction fault failed
    exact Interpreter.perform_of_error failed

/-- A program that returns without a call stops there, with the program counter at the return. -/
theorem step_faults_iff_return :
    let b := (fresh {} fun _ => 0).run [.load [0x00, 0xEE]]
    b.Reachable ∧ b.interpreter.step.answer = .error .stackUnderflow ∧
      b.interpreter.step.interpreter = b.interpreter.stopped .stackUnderflow := by
  intro b
  have reached : b.Reachable := ⟨_, _, _, rfl⟩
  have faults := step_faults_iff reached (by decide +kernel)
  have failed : b.interpreter.step.answer = .error .stackUnderflow :=
    (faults.1 _).mpr (.returnWithoutCall (by decide +kernel) (by decide +kernel) rfl)
  exact ⟨reached, failed, faults.2.2.2.1 _ failed⟩

end Bench

end Chip8
