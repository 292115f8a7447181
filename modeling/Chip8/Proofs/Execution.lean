import Chip8.Proofs.Work

/-!
# What an instruction does

The parts of the machine that decide how a run goes on, instruction by instruction: where the
program continues as an exact number, what becomes of the call stack, which instructions end in a
fault and in which, and that only a wait for a key touches the book on waits.
-/

namespace Chip8

/-- An answer that has been mapped comes from an answer. -/
theorem ok_of_map_ok {ε α β : Type} {answer : Except ε α} {f : α → β} {b : β}
    (mapped : answer.map f = .ok b) : ∃ a, answer = .ok a ∧ f a = b := by
  cases answer with
  | error e => cases mapped
  | ok a => exact ⟨a, rfl, Except.ok.inj mapped⟩

/-- Mapping an answer keeps its faults. -/
theorem map_eq_error_iff {ε α β : Type} {answer : Except ε α} {f : α → β} {e : ε} :
    answer.map f = .error e ↔ answer = .error e := by
  cases answer with
  | error e' => simp [Except.map]
  | ok a => simp [Except.map]

/-- The registers from `V0` to `x` are one more than the number of `x`. -/
theorem Registers.length_firstThrough (r : Registers) (x : Register) :
    (r.firstThrough x).length = x + 1 := by
  have small := x.isLt
  rw [firstThrough, List.length_take, Vector.length_toList]
  omega

/-- The number of bytes that an instruction reads or writes from where the index register points. -/
def Instruction.blockLength : Instruction → Nat
  | .storeDecimal _ => 3
  | .storeRegisters x | .loadRegisters x => x + 1
  | .draw _ _ rows => rows
  | _ => 0

namespace Machine

/-- Where the program continues after an instruction that does not fault. -/
def destination (m : Machine) (d : Dialect) : Instruction → Int
  | .ret => m.stack.frames.headD 0
  | .jump target | .call target => target.val
  | .jumpOffset base => m.offsetTarget d base
  | .skip condition => if m.satisfies condition then m.pc + 4 else m.pc + 2
  | .awaitKey _ => m.pc
  | _ => m.pc + 2

/-- The return addresses, newest first, after an instruction that does not fault. -/
def callers (m : Machine) : Instruction → List Int
  | .ret => m.stack.frames.tail
  | .call _ => m.nextPC :: m.stack.frames
  | _ => m.stack.frames

/-- The keypad after an instruction that does not fault. -/
def keypadAfter (m : Machine) : Instruction → Keypad
  | .awaitKey _ => m.keypad.beginWait
  | _ => m.keypad

/-- What the machine is doing after an instruction that does not fault. -/
def runStateAfter (m : Machine) : Instruction → RunState
  | .awaitKey _ => .awaitingKey
  | _ => m.runState

/-- The register for the key after an instruction that does not fault. -/
def keyRegisterAfter (m : Machine) : Instruction → Register
  | .awaitKey x => x
  | _ => m.keyRegister

/-- What an instruction that does not fault makes of the parts that decide how the run goes on. -/
structure Executed (m : Machine) (d : Dialect) (instruction : Instruction) (next : Machine) :
    Prop where
  pc : next.registers.pc = UInt16.ofInt (m.destination d instruction)
  frames : next.stack.frames = m.callers instruction
  keypad : next.keypad = m.keypadAfter instruction
  runState : next.runState = m.runStateAfter instruction
  keyRegister : next.keyRegister = m.keyRegisterAfter instruction
  fault : next.fault = m.fault

/-- Adding to the index register changes registers only, and not the program counter. -/
theorem addIndex_registers (m : Machine) (d : Dialect) (x : Register) :
    ∃ r : Registers, r.pc = m.registers.pc ∧ m.addIndex d x = { m with registers := r } := by
  simp only [addIndex]
  split
  · exact ⟨(m.registers.setIndex _).set Register.flag _, rfl, rfl⟩
  · exact ⟨m.registers.setIndex _, rfl, rfl⟩

/-- Going on behind an instruction after a change of registers that spares the program counter. -/
theorem registers_pc_advance (m : Machine) (r : Registers) (kept : r.pc = m.registers.pc) :
    (Machine.advance { m with registers := r }).registers.pc = UInt16.ofInt (m.pc + 2) := by
  rw [advance_registers m r kept]
  rfl

/-- An instruction that does not fault does this to the program counter, the call stack, the wait
for a key and the fault. -/
theorem executed {m next : Machine} {d : Dialect} {chance : UInt8} {instruction : Instruction}
    (ran : m.execute d chance instruction = .ok next) : Executed m d instruction next := by
  cases instruction with
  | ret =>
    obtain ⟨⟨address, stack⟩, popped, rfl⟩ := ok_of_map_ok ran
    unfold CallStack.pop at popped
    split at popped
    · cases popped
    · rename_i frames
      cases popped
      exact ⟨by simp [destination, frames, goTo, Registers.setPC], by simp [callers, frames, goTo],
        rfl, rfl, rfl, rfl⟩
  | call target =>
    obtain ⟨stack, pushed, rfl⟩ := ok_of_map_ok ran
    unfold CallStack.push at pushed
    split at pushed
    · cases pushed
    · cases pushed
      exact ⟨rfl, rfl, rfl, rfl, rfl, rfl⟩
  | skip condition =>
    cases ran
    cases holds : m.satisfies condition with
    | true => exact ⟨by simp only [destination, holds, if_true]; rfl, rfl, rfl, rfl, rfl, rfl⟩
    | false =>
      exact ⟨by simp only [destination, holds, if_neg Bool.false_ne_true]; rfl, rfl, rfl, rfl, rfl,
        rfl⟩
  | storeDecimal x =>
    obtain ⟨memory, _, rfl⟩ := ok_of_map_ok ran
    exact ⟨rfl, rfl, rfl, rfl, rfl, rfl⟩
  | storeRegisters x =>
    obtain ⟨memory, _, rfl⟩ := ok_of_map_ok ran
    obtain ⟨r, kept, moved⟩ := passBlock_registers { m with memory := memory } d x
    rw [moved]
    exact ⟨registers_pc_advance _ r kept, rfl, rfl, rfl, rfl, rfl⟩
  | loadRegisters x =>
    obtain ⟨bytes, _, rfl⟩ := ok_of_map_ok ran
    obtain ⟨r, kept, moved⟩ :=
      passBlock_registers { m with registers := m.registers.setFirst bytes } d x
    rw [Registers.pc_setFirst] at kept
    rw [moved]
    exact ⟨registers_pc_advance m r kept, rfl, rfl, rfl, rfl, rfl⟩
  | draw x y rows =>
    obtain ⟨bytes, _, rfl⟩ := ok_of_map_ok ran
    exact ⟨rfl, rfl, rfl, rfl, rfl, rfl⟩
  | addIndex x =>
    cases ran
    obtain ⟨r, kept, moved⟩ := addIndex_registers m d x
    rw [moved]
    exact ⟨registers_pc_advance m r kept, rfl, rfl, rfl, rfl, rfl⟩
  | alu op x y =>
    cases ran
    exact ⟨registers_pc_advance m _ (m.registers.pc_operate d op x y), rfl, rfl, rfl, rfl, rfl⟩
  | awaitKey x =>
    cases ran
    exact ⟨(congrArg (fun m => m.registers.pc) (goTo_pc m)).symm, rfl, rfl, rfl, rfl, rfl⟩
  | _ =>
    cases ran
    exact ⟨rfl, rfl, rfl, rfl, rfl, rfl⟩

/-! ### Faults -/

/-- The fault that an instruction ends in, if it ends in one: a return without a call, a call too
deep, or a block that leaves memory. -/
def obstacle (m : Machine) : Instruction → Option Fault
  | .ret => if m.stack.frames = [] then some .stackUnderflow else none
  | .call _ => if 16 ≤ m.stack.depth then some (.stackOverflow (m.stack.depth + 1)) else none
  | instruction =>
    if 4096 < m.blockStart + instruction.blockLength then some (.outOfBounds 4096) else none

/-- A block begins in memory. -/
theorem blockStart_lt (m : Machine) : m.blockStart < 4096 :=
  Nat.mod_lt _ (by decide)

/-- A block is refused when it ends beyond memory, and then the fault names the first address
there. -/
theorem check_block (m : Machine) (length : Nat) :
    Memory.check m.blockStart length =
      if 4096 < m.blockStart + length then .error (.outOfBounds 4096) else .ok () := by
  have inside := m.blockStart_lt
  rw [Memory.check, if_neg (by omega), max_eq_right (by omega)]
  by_cases beyond : 4096 < m.blockStart + length
  · rw [if_pos beyond, if_pos (by omega)]
  · rw [if_neg beyond, if_neg (by omega)]

/-- Reading a block faults exactly when it goes beyond the memory. -/
theorem readBlock_eq_error_iff (m : Machine) (length : Nat) (fault : Fault) :
    m.memory.readBlock m.blockStart length = .error fault ↔
      (if 4096 < m.blockStart + length then some (Fault.outOfBounds 4096) else none) =
        some fault := by
  rw [Memory.readBlock, check_block]
  by_cases beyond : 4096 < m.blockStart + length
  · simp [beyond]
  · simp [beyond]

/-- Writing a block faults exactly when it goes beyond the memory. -/
theorem writeBytes_eq_error_iff (m : Machine) (bytes : List UInt8) (fault : Fault) :
    m.memory.writeBytes m.blockStart bytes = .error fault ↔
      (if 4096 < m.blockStart + bytes.length then some (Fault.outOfBounds 4096) else none) =
        some fault := by
  rw [Memory.writeBytes, check_block]
  by_cases beyond : 4096 < m.blockStart + bytes.length
  · simp [beyond]
  · simp [beyond]

/-- An instruction faults exactly when something stands in its way, and with that fault. -/
theorem execute_eq_error_iff (m : Machine) (d : Dialect) (chance : UInt8)
    (instruction : Instruction) (fault : Fault) :
    m.execute d chance instruction = .error fault ↔ m.obstacle instruction = some fault := by
  have free : ¬4096 < m.blockStart := Nat.not_lt.mpr m.blockStart_lt.le
  cases instruction with
  | ret =>
    rw [execute, map_eq_error_iff, CallStack.pop, obstacle]
    cases m.stack.frames with
    | nil => simp
    | cons address rest => simp
  | call target =>
    rw [execute, map_eq_error_iff, CallStack.push, obstacle]
    by_cases full : 16 ≤ m.stack.depth
    · simp [full]
    · simp [full]
  | storeDecimal x =>
    rw [execute, map_eq_error_iff, writeBytes_eq_error_iff]
    rfl
  | storeRegisters x =>
    rw [execute, map_eq_error_iff, writeBytes_eq_error_iff, Registers.length_firstThrough]
    rfl
  | loadRegisters x =>
    rw [execute, map_eq_error_iff, readBlock_eq_error_iff]
    rfl
  | draw x y rows =>
    rw [execute, map_eq_error_iff, readBlock_eq_error_iff]
    rfl
  | _ => simp [execute, obstacle, Instruction.blockLength, free]

end Machine

namespace Work

/-- Whether a piece of work, if it does not fault, hands over a given address. -/
def HandsOver (target : Int) (work : Work Int) : Prop :=
  ∀ i left found, work.run i = .ok found left → found = target

/-- What is handed over at once is handed over. -/
theorem handsOver_pure (target : Int) : HandsOver target (pure target) := by
  intro i left found ran
  cases ran
  rfl

/-- What the last piece of work hands over is handed over. -/
theorem handsOver_bind {α : Type} {target : Int} {work : Work α} {next : α → Work Int}
    (last : ∀ a, HandsOver target (next a)) : HandsOver target (work >>= next) := by
  intro i left found ran
  rw [EStateM.run_bind] at ran
  cases first : work.run i with
  | ok a j =>
    rw [first] at ran
    exact last a j left found ran
  | error fault j =>
    rw [first] at ran
    cases ran

/-- The address that the work on an instruction hands to the program counter is the destination. -/
theorem target_effect {instruction : Instruction} {i left : Interpreter} {target : Int}
    (ran : (effect i.machine.pc instruction).run i = .ok target left) :
    target = i.machine.destination i.dialect instruction := by
  cases instruction with
  | ret =>
    simp only [effect, EStateM.run_bind, run_machine, CallStack.pop] at ran
    cases frames : i.machine.stack.frames with
    | nil =>
      rw [frames] at ran
      cases ran
    | cons address rest =>
      rw [frames] at ran
      cases ran
      rw [Machine.destination, frames, List.headD_cons]
  | call callee =>
    have ends : HandsOver (callee.val : Int) (effect i.machine.pc (.call callee)) :=
      handsOver_bind fun _ => handsOver_bind fun _ => handsOver_bind fun _ => handsOver_pure _
    exact ends i left target ran
  | storeDecimal x =>
    have ends : HandsOver (i.machine.pc + 2) (effect i.machine.pc (.storeDecimal x)) :=
      handsOver_bind fun _ => handsOver_bind fun _ => handsOver_pure _
    exact ends i left target ran
  | storeRegisters x =>
    have ends : HandsOver (i.machine.pc + 2) (effect i.machine.pc (.storeRegisters x)) :=
      handsOver_bind fun _ => handsOver_bind fun _ => handsOver_bind fun _ => handsOver_pure _
    exact ends i left target ran
  | loadRegisters x =>
    have ends : HandsOver (i.machine.pc + 2) (effect i.machine.pc (.loadRegisters x)) :=
      handsOver_bind fun _ => handsOver_bind fun _ => handsOver_bind fun _ => handsOver_pure _
    exact ends i left target ran
  | draw x y rows =>
    have ends : HandsOver (i.machine.pc + 2) (effect i.machine.pc (.draw x y rows)) :=
      handsOver_bind fun _ => handsOver_bind fun _ => handsOver_bind fun _ =>
        handsOver_bind fun _ => handsOver_bind fun _ => handsOver_bind fun _ => handsOver_pure _
    exact ends i left target ran
  | addIndex x =>
    have ends : HandsOver (i.machine.pc + 2) (effect i.machine.pc (.addIndex x)) := by
      refine handsOver_bind fun _ => handsOver_bind fun _ => handsOver_bind fun _ =>
        handsOver_bind fun d => ?_
      cases d.indexSetsFlag with
      | true => exact handsOver_bind fun _ => handsOver_pure _
      | false => exact handsOver_pure _
    exact ends i left target ran
  | alu op x y =>
    have ends : HandsOver (i.machine.pc + 2) (effect i.machine.pc (.alu op x y)) :=
      handsOver_bind fun _ => handsOver_bind fun _ => handsOver_bind fun _ =>
        handsOver_bind fun _ => handsOver_bind fun _ => handsOver_pure _
    exact ends i left target ran
  | _ =>
    cases ran
    rfl

end Work

end Chip8
