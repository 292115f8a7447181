import Chip8.Proofs.Decoding
import Chip8.Proofs.Execution

/-!
# One step

What a step can amount to, said once: the fault that stopped the machine comes again, a wait goes on
or ends, the machine stops at a fault of its instruction, or the instruction is executed.
-/

namespace Chip8

/-- The word at an address, high byte first. -/
def Memory.wordAt (m : Memory) (a : Nat) : Word :=
  UInt16.ofNat (256 * (m.byteAt a).toNat + (m.byteAt (a + 1)).toNat)

/-- The word at the program counter. -/
def Machine.word (m : Machine) : Word :=
  m.memory.wordAt m.registers.pc.toNat

/-- Joining two bytes makes the word of which they are the halves. -/
theorem join_bytes (high low : UInt8) :
    high.toUInt16 <<< 8 ||| low.toUInt16 = UInt16.ofNat (256 * high.toNat + low.toNat) := by
  have top := high.toNat_lt
  have bottom := low.toNat_lt
  have shifted : (high.toUInt16 <<< 8).toNat = high.toNat <<< 8 := by
    rw [UInt16.toNat_shiftLeft, UInt8.toNat_toUInt16]
    change (high.toNat <<< 8) % 65536 = high.toNat <<< 8
    rw [Nat.shiftLeft_eq]
    omega
  apply Word.eq_of_toNat
  rw [UInt16.toNat_or, shifted, UInt8.toNat_toUInt16, ← Nat.shiftLeft_add_eq_or_of_lt bottom,
    Nat.shiftLeft_eq, UInt16.toNat_ofNat']
  omega

/-- Reading inside memory yields the byte there. -/
theorem Memory.read_inside (m : Memory) {a : Nat} (inside : a < 4096) :
    m.read a = .ok (m.byteAt a) := by
  have accepted : check a 1 = .ok () := (check_eq_ok_iff _ _).mpr ⟨by omega, by omega⟩
  rw [read, accepted, Int.toNat_natCast]

/-- Reading beyond memory yields a fault that names the address. -/
theorem Memory.read_beyond (m : Memory) {a : Nat} (beyond : ¬a < 4096) :
    m.read a = .error (.outOfBounds a) := by
  have refused : check a 1 = .error (.outOfBounds a) := by
    rw [check, if_neg (by omega), if_pos (by omega), max_eq_left (by omega)]
  rw [read, refused]

namespace Interpreter

/-- The word at the program counter is fetched, unless the program counter lies beyond the last
word; then the fault names the first address beyond memory that is reached. -/
theorem fetch_eq (i : Interpreter) :
    i.fetch =
      if 0xFFE < i.machine.pc then .error (.outOfBounds (max i.machine.pc 0x1000))
      else .ok i.machine.word := by
  obtain ⟨a, here⟩ : ∃ a : Nat, i.machine.registers.pc.toNat = a := ⟨_, rfl⟩
  have first : i.machine.pc = a := congrArg _ here
  have second : i.machine.pc + 1 = (a + 1 : Nat) := by
    rw [first]
    omega
  rw [fetch, second, first]
  by_cases inside : a < 4096
  · rw [Memory.read_inside _ inside]
    by_cases whole : a + 1 < 4096
    · have low : ¬(0xFFE : Int) < a := by omega
      rw [Memory.read_inside _ whole, if_neg low, Machine.word, Memory.wordAt, here]
      exact congrArg _ (join_bytes _ _)
    · have high : (0xFFE : Int) < a := by omega
      rw [Memory.read_beyond _ whole, if_pos high, max_eq_right (by omega),
        show a + 1 = 4096 by omega]
      rfl
  · have high : (0xFFE : Int) < a := by omega
    rw [Memory.read_beyond _ inside, if_pos high, max_eq_left (by omega)]

/-- The instruction at the program counter and its word are seen when the word can be fetched and
stands for an instruction. -/
theorem peek_eq_ok_iff (i : Interpreter) (w : Word) (instruction : Instruction) :
    i.peek = .ok (w, instruction) ↔
      i.machine.pc ≤ 0xFFE ∧ i.machine.word = w ∧ Instruction.ofWord? w = some instruction := by
  rw [peek, fetch_eq]
  by_cases beyond : 0xFFE < i.machine.pc
  · rw [if_pos beyond]
    simp [beyond]
  · rw [if_neg beyond]
    simp only [Instruction.decode]
    cases decoded : Instruction.ofWord? i.machine.word with
    | none =>
      simp only [Except.map, reduceCtorEq, false_iff, not_and]
      rintro _ rfl
      simp [decoded]
    | some seen =>
      simp only [Except.map, Except.ok.injEq, Prod.mk.injEq]
      constructor
      · rintro ⟨rfl, rfl⟩
        exact ⟨by omega, rfl, decoded⟩
      · rintro ⟨_, rfl, again⟩
        exact ⟨rfl, Option.some.inj (decoded.symm.trans again)⟩

/-- The fault that the step of a running machine ends in, if it ends in one: the fault of the fetch,
of the word, or of the instruction. -/
def stepFault (i : Interpreter) : Option Fault :=
  match i.peek with
  | .error fault => some fault
  | .ok (_, instruction) => i.machine.obstacle instruction

/-- The interpreter with its machine stopped at a fault and all else as it is. -/
def stopped (i : Interpreter) (fault : Fault) : Interpreter :=
  i.onMachine fun m => { m with runState := .halted fault, fault := some fault }

/-- The step of a running machine that ends in a fault answers with it and stops the machine. -/
theorem step_of_stepFault {i : Interpreter} (running : i.machine.runState = .running)
    {fault : Fault} (obstructed : i.stepFault = some fault) :
    i.step.answer = .error fault ∧ i.step.interpreter = i.stopped fault := by
  rw [stepFault] at obstructed
  simp only [step, running, stepRunning]
  cases seen : i.peek with
  | error other =>
    rw [seen] at obstructed
    cases obstructed
    exact ⟨rfl, rfl⟩
  | ok pair =>
    rw [seen] at obstructed
    have failed : i.execute pair.2 = .error fault :=
      map_eq_error_iff.mpr ((Machine.execute_eq_error_iff _ _ _ _ _).mpr obstructed)
    simp only [Work.carryOut_run, failed]
    exact ⟨rfl, rfl⟩

/-- A step that executes the instruction at the program counter comes to what the instruction makes
of the interpreter. -/
theorem step_of_execute {i next : Interpreter} {w : Word} {instruction : Instruction}
    (running : i.machine.runState = .running) (seen : i.peek = .ok (w, instruction))
    (ran : i.execute instruction = .ok next) :
    i.step.answer = .ok next.machine.runState ∧ i.step.interpreter = next := by
  simp only [step, running, stepRunning, seen, Work.carryOut_run, ran]
  exact ⟨rfl, rfl⟩

/-- Without a fault there is an instruction at the program counter, and it can be executed. -/
theorem exists_execute {i : Interpreter} (free : i.stepFault = none) :
    ∃ w instruction next, i.peek = .ok (w, instruction) ∧ i.execute instruction = .ok next := by
  rw [stepFault] at free
  cases seen : i.peek with
  | error fault =>
    rw [seen] at free
    cases free
  | ok pair =>
    rw [seen] at free
    cases ran : i.execute pair.2 with
    | error fault =>
      have stuck := (Machine.execute_eq_error_iff _ _ _ _ _).mp (map_eq_error_iff.mp ran)
      cases stuck.symm.trans free
    | ok next => exact ⟨pair.1, pair.2, next, rfl, ran⟩

/-- What a step can amount to: its answer and the interpreter afterwards. -/
inductive Stepped (i : Interpreter) : Except Fault RunState → Interpreter → Prop
  /-- The fault that stopped the machine comes again. -/
  | again (fault : Fault) (halted : i.machine.runState = .halted fault) : Stepped i (.error fault) i
  /-- The wait for a key goes on. -/
  | idle (waiting : i.machine.runState = .awaitingKey)
      (silent : i.machine.keypad.newlyPressed = none) : Stepped i (.ok .awaitingKey) i
  /-- The wait for a key ends. -/
  | woken (key : Key) (waiting : i.machine.runState = .awaitingKey)
      (struck : i.machine.keypad.newlyPressed = some key) :
      Stepped i (.ok .running) (i.onMachine (storeKey · key))
  /-- The machine stops at a fault of its instruction. -/
  | faulted (fault : Fault) (running : i.machine.runState = .running)
      (obstructed : i.stepFault = some fault) : Stepped i (.error fault) (i.stopped fault)
  /-- The instruction at the program counter is executed. -/
  | executed (w : Word) (instruction : Instruction) (next : Interpreter)
      (running : i.machine.runState = .running) (seen : i.peek = .ok (w, instruction))
      (ran : i.execute instruction = .ok next) : Stepped i (.ok next.machine.runState) next

/-- Every step amounts to one of these. -/
theorem stepped (i : Interpreter) : Stepped i i.step.answer i.step.interpreter := by
  cases doing : i.machine.runState with
  | halted fault =>
    simp only [step, doing]
    exact .again fault doing
  | awaitingKey =>
    simp only [step, doing, stepAwaitingKey]
    cases pressed : i.machine.keypad.newlyPressed with
    | none => exact .idle doing pressed
    | some key => exact .woken key doing pressed
  | running =>
    cases outcome : i.stepFault with
    | some fault =>
      obtain ⟨answer, after⟩ := step_of_stepFault doing outcome
      rw [answer, after]
      exact .faulted fault doing outcome
    | none =>
      obtain ⟨w, instruction, next, seen, ran⟩ := exists_execute outcome
      obtain ⟨answer, after⟩ := step_of_execute doing seen ran
      rw [answer, after]
      exact .executed w instruction next doing seen ran

end Interpreter

end Chip8
