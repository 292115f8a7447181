import Chip8.Proofs.Frame
import Chip8.Proofs.Invariant

/-!
# Where the program goes on

The address that follows on each word, as a whole number: jumps, calls and returns, the six words
that skip the next one, the word that waits for a key, and all others. A sum that leads beyond
memory is kept whole as well. Main statement: on every reachable running machine a step that does
not fault goes on at exactly this address, and a wait that a step begins ends two bytes further,
whatever the host does to the machine in between.
-/

namespace Chip8

open Instruction (wordOfAddress wordOfByte wordOfPair)

/-- What a word stands for is known once it is written as the word of an instruction. -/
theorem Instruction.eq_of_word (instruction : Instruction) {w : Word} {seen : Instruction}
    (decoded : ofWord? w = some seen) (written : w = instruction.word)
    (proper : instruction.Proper) : seen = instruction := by
  rw [written, ofWord?_word proper] at decoded
  exact (Option.some.inj decoded).symm

/-- A word of the zero family that neither clears the screen nor returns is that of a routine. -/
theorem Instruction.proper_of_word {w : Word} {nnn : Address} (zero : w = wordOfAddress 0x0 nnn)
    (notClear : w ≠ 0x00E0) (notReturn : w ≠ 0x00EE) : (hostRoutine nnn).Proper := by
  constructor
  · intro same
    rw [zero, wordOfAddress, same] at notClear
    exact notClear rfl
  · intro same
    rw [zero, wordOfAddress, same] at notReturn
    exact notReturn rfl

namespace Machine

/-- The words that skip the next one, each with its condition on the machine that executes it. -/
inductive SkipsIf (m : Machine) : Word → Prop → Prop
  | equalsByte (x : Register) (byte : UInt8) :
      SkipsIf m (wordOfByte 0x3 x byte) (m.registers.get x = byte)
  | differsFromByte (x : Register) (byte : UInt8) :
      SkipsIf m (wordOfByte 0x4 x byte) (m.registers.get x ≠ byte)
  | equals (x y : Register) :
      SkipsIf m (wordOfPair 0x5 x y 0) (m.registers.get x = m.registers.get y)
  | differs (x y : Register) :
      SkipsIf m (wordOfPair 0x9 x y 0) (m.registers.get x ≠ m.registers.get y)
  | keyDown (x : Register) (key : Key) (named : key.val = (m.registers.get x).toNat % 16) :
      SkipsIf m (wordOfByte 0xE x 0x9E) (m.keypad.pressed.contains key = true)
  | keyUp (x : Register) (key : Key) (named : key.val = (m.registers.get x).toNat % 16) :
      SkipsIf m (wordOfByte 0xE x 0xA1) (m.keypad.pressed.contains key = false)

/-- Where the word at the program counter leads, and what it makes of the return addresses. The
conditions are those of the machine before. -/
structure Flows (d : Dialect) (m next : Machine) : Prop where
  jump : ∀ nnn, m.word = wordOfAddress 0x1 nnn → next.pc = nnn.val
  call : ∀ nnn, m.word = wordOfAddress 0x2 nnn →
    next.pc = nnn.val ∧ next.stack.addresses = m.stack.addresses ++ [m.pc + 2]
  /-- A return takes the newest address off the stack and goes on there. -/
  ret : m.word = 0x00EE → m.stack.addresses = next.stack.addresses ++ [next.pc]
  /-- The offset is in `V0`, or in the register that the topmost digit of the address names. -/
  jumpOffset : ∀ nnn, m.word = wordOfAddress 0xB nnn → ∀ v : Register,
    v.val = (if d.jumpsByNamed then nnn.val / 256 else 0) →
      next.pc = nnn.val + (m.registers.get v).toNat
  skip : ∀ condition, m.SkipsIf m.word condition →
    (condition → next.pc = m.pc + 4) ∧ (¬condition → next.pc = m.pc + 2)
  awaitKey : ∀ x, m.word = wordOfByte 0xF x 0x0A → next.pc = m.pc
  others : m.word ≠ 0x00EE →
    (∀ family ∈ [0x1, 0x2, 0xB], ∀ nnn, m.word ≠ wordOfAddress family nnn) →
    (∀ condition, ¬m.SkipsIf m.word condition) → (∀ x, m.word ≠ wordOfByte 0xF x 0x0A) →
      next.pc = m.pc + 2

variable {m next : Machine} {d : Dialect} {chance : UInt8} {instruction : Instruction}

/-- Whether a key is down is asked of the low four bits of a byte. -/
theorem isPressed_byte (m : Machine) {byte : UInt8} {key : Key}
    (named : key.val = byte.toNat % 16) :
    m.keypad.isPressed byte.toNat = m.keypad.pressed.contains key := by
  have same : Nibble.ofInt byte.toNat = key := by
    apply Fin.ext
    show ((byte.toNat : Int) % 16).toNat % 16 = key.val
    omega
  rw [Keypad.isPressed, same]

/-- A word that skips is the word of a skip, and its condition is the one that is looked up. -/
theorem SkipsIf.exists_condition {w : Word} {condition : Prop} (skips : m.SkipsIf w condition) :
    ∃ asked : Condition, w = Instruction.word (.skip asked) ∧
      (m.satisfies asked = true ↔ condition) := by
  cases skips with
  | equalsByte x byte => exact ⟨.equalsByte x byte, rfl, beq_iff_eq⟩
  | differsFromByte x byte => exact ⟨.differsFromByte x byte, rfl, bne_iff_ne⟩
  | equals x y => exact ⟨.equals x y, rfl, beq_iff_eq⟩
  | differs x y => exact ⟨.differs x y, rfl, bne_iff_ne⟩
  | keyDown x key named =>
    refine ⟨.keyDown x, rfl, ?_⟩
    rw [satisfies, m.isPressed_byte named]
  | keyUp x key named =>
    refine ⟨.keyUp x, rfl, ?_⟩
    rw [satisfies, m.isPressed_byte named, Bool.not_eq_true']

/-- The word of every skip skips on some condition. -/
theorem exists_skipsIf (m : Machine) (asked : Condition) :
    ∃ condition, m.SkipsIf (Instruction.word (.skip asked)) condition := by
  cases asked with
  | equalsByte x byte => exact ⟨_, .equalsByte x byte⟩
  | differsFromByte x byte => exact ⟨_, .differsFromByte x byte⟩
  | equals x y => exact ⟨_, .equals x y⟩
  | differs x y => exact ⟨_, .differs x y⟩
  | keyDown x => exact ⟨_, .keyDown x (Nibble.ofNat (m.registers.get x).toNat) rfl⟩
  | keyUp x => exact ⟨_, .keyUp x (Nibble.ofNat (m.registers.get x).toNat) rfl⟩

/-- On a sound machine the instruction that a word stands for goes on where the word leads. -/
theorem Sound.flows (sound : m.Sound) (fetched : m.pc ≤ 0xFFE)
    (decoded : Instruction.ofWord? m.word = some instruction)
    (ran : m.execute d chance instruction = .ok next) : Flows d m next := by
  have lands : next.pc = m.destination d instruction := sound.pc_execute fetched ran
  have frames : next.stack.frames = m.callers instruction := (executed ran).frames
  have written : m.word = instruction.word := (Instruction.word_of_ofWord? decoded).symm
  constructor
  case jump =>
    intro nnn word
    obtain rfl := Instruction.eq_of_word (.jump nnn) decoded word trivial
    exact lands
  case call =>
    intro nnn word
    obtain rfl := Instruction.eq_of_word (.call nnn) decoded word trivial
    refine ⟨lands, ?_⟩
    rw [CallStack.addresses, frames, callers, List.reverse_cons]
    rfl
  case ret =>
    intro word
    obtain rfl := Instruction.eq_of_word .ret decoded word trivial
    obtain ⟨address, found⟩ := exists_frame_of_ret ran
    have back : next.pc = address := by
      rw [lands, destination, found, List.headD_cons]
    rw [CallStack.addresses, found, List.reverse_cons, back]
    rfl
  case jumpOffset =>
    intro nnn word v named
    obtain rfl := Instruction.eq_of_word (.jumpOffset nnn) decoded word trivial
    have bound := nnn.isLt
    have chosen : (if d.jumpsByNamed then Nibble.ofNat (nnn / 256) else Nibble.zero) = v := by
      apply Fin.ext
      rw [named]
      split
      · exact Nat.mod_eq_of_lt (by omega)
      · rfl
    rw [lands, destination, offsetTarget, chosen]
  case skip =>
    intro condition skips
    obtain ⟨asked, word, satisfied⟩ := skips.exists_condition
    obtain rfl := Instruction.eq_of_word (.skip asked) decoded word trivial
    rw [lands, destination, ← satisfied]
    exact ⟨fun holds => if_pos holds, fun fails => if_neg fails⟩
  case awaitKey =>
    intro x word
    obtain rfl := Instruction.eq_of_word (.awaitKey x) decoded word trivial
    exact lands
  case others =>
    intro noReturn noAddress noSkip noWait
    rw [lands]
    cases instruction with
    | ret => exact absurd written noReturn
    | jump target => exact absurd written (noAddress 0x1 (by decide) target)
    | call target => exact absurd written (noAddress 0x2 (by decide) target)
    | jumpOffset base => exact absurd written (noAddress 0xB (by decide) base)
    | skip asked =>
      obtain ⟨condition, skips⟩ := m.exists_skipsIf asked
      rw [← written] at skips
      exact absurd skips (noSkip condition)
    | awaitKey x => exact absurd written (noWait x)
    | _ => rfl

end Machine

namespace Interpreter

/-- The interpreters that the host meets while a wait for a key goes on: the keys move, the clock
ticks, steps find no key, and at any later time the host comes back to a snapshot taken in the
wait. -/
inductive InWait (begun : Interpreter) : Interpreter → Prop
  | begun : InWait begun begun
  | keyDown {i : Interpreter} (k : Int) (within : InWait begun i) :
      InWait begun (i.onMachine fun m => m.keyDown k)
  | keyUp {i : Interpreter} (k : Int) (within : InWait begun i) :
      InWait begun (i.onMachine fun m => m.keyUp k)
  | tick {i : Interpreter} (within : InWait begun i) : InWait begun i.tick
  | idle {i : Interpreter} (within : InWait begun i) (silent : i.step.answer = .ok .awaitingKey) :
      InWait begun i.step.interpreter
  | restored {taken : Interpreter} (within : InWait begun taken) (later : Interpreter) :
      InWait begun (later.restore taken.snapshot).interpreter

variable {begun i : Interpreter}

/-- The step of a running machine that does not fault executes the instruction at the program
counter. -/
theorem executed_of_answered (running : i.machine.runState = .running) {doing : RunState}
    (answered : i.step.answer = .ok doing) :
    ∃ w instruction, i.peek = .ok (w, instruction) ∧
      i.execute instruction = .ok i.step.interpreter := by
  have unfaulted : i.stepFault = none := by
    by_contra obstructed
    obtain ⟨fault, stuck⟩ := Option.ne_none_iff_exists'.mp obstructed
    rw [(step_of_stepFault running stuck).1] at answered
    cases answered
  obtain ⟨w, instruction, next, seen, ran⟩ := exists_execute unfaulted
  refine ⟨w, instruction, seen, ?_⟩
  rw [(step_of_execute running seen ran).2]
  exact ran

/-- A routine of the host moves the program counter and nothing else. -/
theorem execute_hostRoutine {next : Interpreter} {nnn : Address}
    (ran : i.execute (.hostRoutine nnn) = .ok next) :
    next = i.onMachine fun m => m.goTo (m.pc + 2) := by
  cases ran
  rfl

/-- A step of a machine that waits leaves it where it is, or ends the wait and goes on two bytes
further. -/
theorem step_of_waiting (waiting : i.machine.runState = .awaitingKey)
    (fetched : i.machine.pc ≤ 0xFFE) :
    i.step.answer = .ok .awaitingKey ∧ i.step.interpreter = i ∨
      i.step.answer = .ok .running ∧ i.step.interpreter.machine.pc = i.machine.pc + 2 := by
  have low := i.machine.pc_nonneg
  have amounts := i.stepped
  generalize i.step.answer = answer, i.step.interpreter = next at amounts ⊢
  cases amounts with
  | again fault halted =>
    rw [waiting] at halted
    cases halted
  | idle _ silent => exact .inl ⟨rfl, rfl⟩
  | woken key _ struck =>
    exact .inr ⟨rfl, Machine.toNat_ofInt (i.machine.pc + 2) (by omega) (by omega)⟩
  | faulted fault running _ =>
    rw [waiting] at running
    cases running
  | executed w instruction next running _ _ =>
    rw [waiting] at running
    cases running

/-- A wait that goes on keeps the machine waiting at the address where it began. -/
theorem InWait.stays (within : InWait begun i) (waiting : begun.machine.runState = .awaitingKey)
    (fetched : begun.machine.pc ≤ 0xFFE) :
    i.machine.runState = .awaitingKey ∧ i.machine.pc = begun.machine.pc := by
  induction within with
  | begun => exact ⟨waiting, rfl⟩
  | keyDown k _ ih => exact ih
  | keyUp k _ ih => exact ih
  | tick _ ih => exact ih
  | restored _ later ih => exact ih
  | @idle j _ silent ih =>
    obtain ⟨still, here⟩ := ih
    rcases step_of_waiting still (by omega) with ⟨_, same⟩ | ⟨running, _⟩
    · rw [same]
      exact ⟨still, here⟩
    · rw [running] at silent
      cases silent

end Interpreter

namespace Bench

open Interpreter (InWait)

/-- The step of a reachable running machine that does not fault goes on exactly where its word
leads. A word of a routine of the host moves the program counter and nothing else. From a wait that
the step begins, the step that ends the wait goes on two bytes behind the word. -/
theorem step_flows {b : Bench} (reached : b.Reachable)
    (running : b.interpreter.machine.runState = .running) {doing : RunState}
    (answered : b.interpreter.step.answer = .ok doing) :
    let i := b.interpreter
    let next := i.step.interpreter
    Machine.Flows i.dialect i.machine next.machine ∧
    (∀ nnn, i.machine.word = wordOfAddress 0x0 nnn → i.machine.word ≠ 0x00E0 →
      i.machine.word ≠ 0x00EE → next = i.onMachine fun m => m.goTo (m.pc + 2)) ∧
    ∀ x, i.machine.word = wordOfByte 0xF x 0x0A → ∀ j, InWait next j →
      j.machine.runState = .awaitingKey ∧ j.machine.pc = i.machine.pc ∧
      (j.step.answer = .ok .awaitingKey ∨
        j.step.answer = .ok .running ∧ j.step.interpreter.machine.pc = i.machine.pc + 2) := by
  intro i next
  have sound := reached.sound.machine
  obtain ⟨w, instruction, seen, ran⟩ := Interpreter.executed_of_answered running answered
  obtain ⟨fetched, word, decoded⟩ := (Interpreter.peek_eq_ok_iff i w instruction).mp seen
  obtain ⟨machine, done, after⟩ := ok_of_map_ok ran
  rw [← word] at decoded
  have result : next.machine = machine := congrArg Interpreter.machine after.symm
  rw [← result] at done
  have flows := sound.flows fetched decoded done
  refine ⟨flows, ?_, ?_⟩
  · intro nnn zero notClear notReturn
    have proper := Instruction.proper_of_word zero notClear notReturn
    obtain rfl := Instruction.eq_of_word (.hostRoutine nnn) decoded zero proper
    exact Interpreter.execute_hostRoutine ran
  · intro x awaits j within
    obtain rfl := Instruction.eq_of_word (.awaitKey x) decoded awaits trivial
    have waiting : next.machine.runState = .awaitingKey := (Machine.executed done).runState
    have here : next.machine.pc = i.machine.pc := flows.awaitKey x awaits
    obtain ⟨still, stands⟩ := within.stays waiting (by omega)
    rw [here] at stands
    refine ⟨still, stands, ?_⟩
    rw [← stands]
    rcases Interpreter.step_of_waiting still (by omega) with ⟨idle, _⟩ | ends
    · exact .inl idle
    · exact .inr ends

/-- A jump by the greatest offset that `VF` can hold leads beyond memory, and a wait that begins
while its key is down, and is restored once, ends behind its word. -/
theorem step_flows_edges :
    let b := (fresh { jumpsByNamed := true } fun _ => 0).run
      [.load [0x6F, 0xFF, 0xBF, 0xFF], .act .step]
    let c := (fresh {} fun _ => 0).run [.load [0xF3, 0x0A], .act (.keyDown 7)]
    let begun := c.interpreter.step.interpreter
    let restored := ((begun.onMachine fun m => m.keyUp 7).tick.restore begun.snapshot).interpreter
    let struck := restored.onMachine fun m => m.keyDown 7
    b.interpreter.step.interpreter.machine.pc = 0x10FE ∧ InWait begun struck ∧
      struck.step.answer = .ok .running ∧ struck.step.interpreter.machine.pc = 0x202 := by
  intro b c begun restored struck
  have jumps : b.interpreter.machine.runState = .running ∧
      b.interpreter.step.answer = .ok .running ∧
      b.interpreter.machine.word = wordOfAddress 0xB 0xFFF ∧
      b.interpreter.dialect.jumpsByNamed = true ∧
      (b.interpreter.machine.registers.get 0xF).toNat = 0xFF := by decide +kernel
  have waits : c.interpreter.machine.runState = .running ∧
      c.interpreter.step.answer = .ok .awaitingKey ∧ c.interpreter.machine.pc = 0x200 ∧
      c.interpreter.machine.word = wordOfByte 0xF 3 0x0A ∧
      struck.step.answer = .ok .running := by decide +kernel
  obtain ⟨running, answered, word, byNamed, offset⟩ := jumps
  obtain ⟨going, begins, here, awaits, ended⟩ := waits
  have reached : b.Reachable := ⟨_, _, _, rfl⟩
  have visited : c.Reachable := ⟨_, _, _, rfl⟩
  have far := (step_flows reached running answered).1.jumpOffset 0xFFF word 0xF
    (if_pos byNamed).symm
  have within : InWait begun struck := .keyDown 7 (.restored .begun _)
  obtain ⟨_, _, ends⟩ := (step_flows visited going begins).2.2 3 awaits struck within
  refine ⟨?_, within, ended, ?_⟩
  · rw [far, offset]
    rfl
  · rcases ends with idle | ⟨_, behind⟩
    · rw [ended] at idle
      cases idle
    · rw [behind, here]
      rfl

end Bench

end Chip8
