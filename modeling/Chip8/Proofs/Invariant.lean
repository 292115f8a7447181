import Chip8.Proofs.Keypad
import Chip8.Proofs.Run
import Chip8.Proofs.Step

/-!
# What holds of every reachable machine

The program counter and the return addresses stay far below the sixteen-bit limit, because fetching
guards the only place where the program counter grows; a machine has a fault exactly when it has
stopped; and a machine that waits for a key stands at the instruction that began the wait, with the
keypad on the watch. Main statement: all of this holds after every run, operations that end in a
fault and returns to old snapshots included.
-/

namespace Chip8

namespace Machine

/-- Where a machine that waits for a key stands: the keypad is on the watch, and the word at the
program counter is the one that waits for a key for the key register. -/
structure AtWait (m : Machine) : Prop where
  armed : m.keypad.armed = true
  pc_le : m.pc ≤ 0xFFE
  word : m.word.toNat = 0xF00A + 0x100 * m.keyRegister.val

/-- What the operations keep. -/
structure Sound (m : Machine) : Prop where
  /-- The furthest that a jump by an offset reaches. -/
  pc_le : m.pc ≤ 0x10FE
  depth_le : m.stack.depth ≤ 16
  /-- A return address lies behind an instruction. -/
  frames : ∀ address ∈ m.stack.frames, 2 ≤ address ∧ address ≤ 0x1000
  fault_iff : ∀ fault, m.fault = some fault ↔ m.runState = .halted fault
  keypad : m.keypad.Consistent
  waiting : m.runState = .awaitingKey → m.AtWait

/-- A machine after a power-up, with any memory. -/
theorem sound_fresh (memory : Memory) : Sound { initial with memory := memory } where
  pc_le := show ((0x200 : UInt16).toNat : Int) ≤ 0x10FE by decide
  depth_le := Nat.zero_le _
  frames _ member := by cases member
  fault_iff fault := ⟨(nomatch ·), (nomatch ·)⟩
  keypad := Keypad.consistent_initial
  waiting h := by cases h

/-- The machine after a power-up. -/
theorem sound_initial : initial.Sound :=
  sound_fresh Memory.initial

/-- The program counter is not negative. -/
theorem pc_nonneg (m : Machine) : 0 ≤ m.pc := Int.natCast_nonneg _

/-- An address that fits sixteen bits is stored as it is. -/
theorem toNat_ofInt (address : Int) (low : 0 ≤ address) (high : address < 65536) :
    ((UInt16.ofInt address).toNat : Int) = address := by
  simp only [UInt16.ofInt, UInt16.toNat_ofNat']
  omega

/-- No instruction leads beyond what a jump by an offset reaches, so the program counter never
loses a bit. -/
theorem Sound.destination_le {m : Machine} (sound : m.Sound) (d : Dialect)
    (instruction : Instruction) (fetched : m.pc ≤ 0xFFE) :
    0 ≤ m.destination d instruction ∧ m.destination d instruction ≤ 0x10FE := by
  have low := m.pc_nonneg
  cases instruction with
  | ret =>
    rw [destination]
    cases frames : m.stack.frames with
    | nil => exact ⟨le_refl _, by decide⟩
    | cons address rest =>
      have bounds := sound.frames address (by rw [frames]; exact List.mem_cons_self)
      rw [List.headD_cons]
      omega
  | jump target =>
    have bound := target.isLt
    rw [destination]
    omega
  | call target =>
    have bound := target.isLt
    rw [destination]
    omega
  | jumpOffset base =>
    have bound := base.isLt
    rw [destination, offsetTarget]
    have byte := (m.registers.get
      (if d.jumpsByNamed then Nibble.ofNat (base / 256) else Nibble.zero)).toNat_lt
    omega
  | skip condition =>
    rw [destination]
    split
    · omega
    · omega
  | awaitKey x =>
    rw [destination]
    omega
  | _ =>
    simp only [destination]
    omega

/-- Where an instruction continues is where the program counter points afterwards. -/
theorem Sound.pc_execute {m next : Machine} (sound : m.Sound) {d : Dialect} {chance : UInt8}
    {instruction : Instruction} (fetched : m.pc ≤ 0xFFE)
    (ran : m.execute d chance instruction = .ok next) : next.pc = m.destination d instruction := by
  have bounds := sound.destination_le d instruction fetched
  rw [pc, (executed ran).pc]
  exact toNat_ofInt _ bounds.1 (by omega)

/-- An instruction that does not fault leaves at most sixteen return addresses, all of them behind
an instruction. -/
theorem Sound.frames_execute {m next : Machine} (sound : m.Sound) {d : Dialect} {chance : UInt8}
    {instruction : Instruction} (fetched : m.pc ≤ 0xFFE)
    (ran : m.execute d chance instruction = .ok next) :
    next.stack.depth ≤ 16 ∧ ∀ address ∈ next.stack.frames, 2 ≤ address ∧ address ≤ 0x1000 := by
  have low := m.pc_nonneg
  have after := (executed ran).frames
  have depth : m.stack.frames.length ≤ 16 := sound.depth_le
  rw [CallStack.depth]
  cases instruction with
  | ret =>
    simp only [callers] at after
    rw [after, List.length_tail]
    exact ⟨by omega, fun address member => sound.frames address (List.mem_of_mem_tail member)⟩
  | call target =>
    have room : ¬16 ≤ m.stack.depth := by
      intro full
      have stuck : m.obstacle (.call target) = some (.stackOverflow (m.stack.depth + 1)) :=
        if_pos full
      rw [(execute_eq_error_iff m d chance _ _).mpr stuck] at ran
      cases ran
    simp only [callers] at after
    rw [after, List.length_cons]
    refine ⟨by rw [CallStack.depth] at room; omega, ?_⟩
    intro address member
    rcases List.mem_cons.mp member with rfl | old
    · rw [nextPC]
      omega
    · exact sound.frames address old
  | _ =>
    simp only [callers] at after
    rw [after]
    exact ⟨depth, sound.frames⟩

/-- A machine that has just begun to wait for a key stands at the word that makes it wait. -/
theorem atWait_awaitKey {m : Machine} {x : Register} (fetched : m.pc ≤ 0xFFE)
    (decoded : Instruction.ofWord? m.word = some (.awaitKey x)) : (m.awaitKey x).AtWait where
  armed := rfl
  pc_le := fetched
  word := by
    have word : m.word = Instruction.word (.awaitKey x) :=
      (Instruction.word_of_ofWord? decoded).symm
    have bound := x.isLt
    change m.word.toNat = 0xF00A + 0x100 * x.val
    rw [word, Instruction.word, Instruction.wordOfByte, UInt16.toNat_ofNat']
    change (0xF * 4096 + x.val * 256 + 0x0A) % 65536 = 0xF00A + 0x100 * x.val
    omega

/-! ### Machines that come from a sound one -/

/-- An instruction that does not fault leaves a sound machine sound. -/
theorem Sound.execute {m next : Machine} (sound : m.Sound) {d : Dialect} {chance : UInt8}
    {instruction : Instruction} (running : m.runState = .running) (fetched : m.pc ≤ 0xFFE)
    (decoded : Instruction.ofWord? m.word = some instruction)
    (ran : m.execute d chance instruction = .ok next) : next.Sound := by
  have after := executed ran
  have bounds := sound.destination_le d instruction fetched
  have stack := sound.frames_execute fetched ran
  have unfaulted : ∀ fault, m.fault ≠ some fault := by
    intro fault set
    have stopped := (sound.fault_iff fault).mp set
    rw [running] at stopped
    cases stopped
  have going : ∀ fault, next.runState ≠ .halted fault := by
    intro fault stopped
    rw [after.runState] at stopped
    cases instruction with
    | awaitKey x => cases stopped
    | _ =>
      simp only [runStateAfter, running] at stopped
      cases stopped
  refine ⟨?_, stack.1, stack.2, ?_, ?_, ?_⟩
  · rw [sound.pc_execute fetched ran]
    exact bounds.2
  · intro fault
    rw [after.fault]
    exact ⟨fun set => absurd set (unfaulted fault), fun stopped => absurd stopped (going fault)⟩
  · rw [after.keypad]
    cases instruction with
    | awaitKey x => exact Keypad.consistent_beginWait _
    | _ => exact sound.keypad
  · intro waits
    rw [after.runState] at waits
    cases instruction with
    | awaitKey x =>
      cases ran
      exact atWait_awaitKey fetched decoded
    | _ =>
      simp only [runStateAfter, running] at waits
      cases waits

/-- Ending a wait moves the program counter behind the instruction that began it. -/
theorem AtWait.pc_storeKey {m : Machine} (stands : m.AtWait) (key : Key) :
    (Interpreter.storeKey m key).pc = m.pc + 2 := by
  have low := m.pc_nonneg
  have high := stands.pc_le
  exact toNat_ofInt (m.pc + 2) (by omega) (by omega)

/-- Ending a wait leaves a sound machine sound. -/
theorem Sound.storeKey {m : Machine} (sound : m.Sound) (waiting : m.runState = .awaitingKey)
    (key : Key) : (Interpreter.storeKey m key).Sound where
  pc_le := by
    have high := (sound.waiting waiting).pc_le
    rw [(sound.waiting waiting).pc_storeKey key]
    omega
  depth_le := sound.depth_le
  frames := sound.frames
  fault_iff fault := by
    constructor
    · intro set
      have stopped := (sound.fault_iff fault).mp set
      rw [waiting] at stopped
      cases stopped
    · intro stopped
      cases stopped
  keypad := sound.keypad.endWait
  waiting waits := by cases waits

/-- A sound machine that stops at a fault is sound. -/
theorem Sound.stop {m : Machine} (sound : m.Sound) (fault : Fault) :
    Sound { m with runState := .halted fault, fault := some fault } where
  pc_le := sound.pc_le
  depth_le := sound.depth_le
  frames := sound.frames
  fault_iff other := by
    constructor
    · intro set
      cases set
      rfl
    · intro stopped
      cases stopped
      rfl
  keypad := sound.keypad
  waiting waits := by cases waits

/-- Changing the keypad to a consistent one that is on the watch if a wait is pending keeps a
machine sound. -/
theorem Sound.withKeypad {m : Machine} (sound : m.Sound) {keypad : Keypad}
    (consistent : keypad.Consistent)
    (armed : m.runState = .awaitingKey → keypad.armed = true) :
    Sound { m with keypad := keypad } where
  pc_le := sound.pc_le
  depth_le := sound.depth_le
  frames := sound.frames
  fault_iff := sound.fault_iff
  keypad := consistent
  waiting waits :=
    { armed := armed waits
      pc_le := (sound.waiting waits).pc_le
      word := (sound.waiting waits).word }

/-- A tick touches the timers alone. -/
theorem Sound.tick {m : Machine} (sound : m.Sound) : m.tick.Sound where
  pc_le := sound.pc_le
  depth_le := sound.depth_le
  frames := sound.frames
  fault_iff := sound.fault_iff
  keypad := sound.keypad
  waiting waits :=
    { armed := (sound.waiting waits).armed
      pc_le := (sound.waiting waits).pc_le
      word := (sound.waiting waits).word }

/-- Whether a machine waits for a key can be read off its run state. -/
theorem isAwaitingKey_iff {m : Machine} :
    m.isAwaitingKey = true ↔ m.runState = .awaitingKey := by
  rw [isAwaitingKey]
  cases m.runState with
  | running => simp
  | awaitingKey => simp
  | halted fault => simp

/-- Coming back to a snapshot of a sound machine makes a sound machine: a pending wait begins anew
at the word that began it. -/
theorem Sound.resumed {s : Snapshot} (sound : s.machine.Sound) {keypad : Keypad}
    (consistent : keypad.Consistent) : (Interpreter.resumed s keypad).Sound := by
  by_cases waits : s.machine.isAwaitingKey = true
  · rw [Interpreter.resumed, if_pos waits]
    exact sound.withKeypad (Keypad.consistent_beginWait _) fun _ => rfl
  · rw [Interpreter.resumed, if_neg waits]
    exact sound.withKeypad consistent fun doing => absurd (isAwaitingKey_iff.mpr doing) waits

end Machine

/-! ### Runs -/

namespace Interpreter

open Machine

/-- A step leaves a sound machine sound, whatever it amounts to. -/
theorem sound_step (i : Interpreter) (sound : i.machine.Sound) :
    i.step.interpreter.machine.Sound := by
  have amounts := i.stepped
  generalize i.step.answer = answer, i.step.interpreter = next at amounts
  cases amounts with
  | again fault halted => exact sound
  | idle waiting silent => exact sound
  | woken key waiting struck => exact sound.storeKey waiting key
  | faulted fault running obstructed => exact sound.stop fault
  | executed w instruction next running seen ran =>
    obtain ⟨fetched, word, decoded⟩ := (peek_eq_ok_iff i w instruction).mp seen
    obtain ⟨machine, done, rfl⟩ := ok_of_map_ok ran
    rw [← word] at decoded
    exact sound.execute running fetched decoded done

/-- An action leaves a sound machine sound. -/
theorem sound_act (i : Interpreter) (action : Action) (sound : i.machine.Sound) :
    (i.act action).2.machine.Sound := by
  refine act_keeps (P := fun i => i.machine.Sound) sound_step (fun _ holds => holds.tick) ?_ ?_
    action i sound
  · intro j k holds
    refine holds.withKeypad (holds.keypad.press k) fun waits => ?_
    rw [Keypad.armed_press]
    exact (holds.waiting waits).armed
  · intro j k holds
    refine holds.withKeypad (holds.keypad.release k) fun waits => ?_
    rw [Keypad.armed_release]
    exact (holds.waiting waits).armed

/-- Loading a program makes a fresh machine, or changes nothing. -/
theorem sound_load (i : Interpreter) (program : List UInt8) (sound : i.machine.Sound) :
    (i.load program).interpreter.machine.Sound := by
  rw [load]
  cases Machine.initial.memory.loadProgram program with
  | error fault => exact sound
  | ok memory => exact Machine.sound_fresh memory

end Interpreter

namespace Bench

/-- A bench whose interpreter and snapshots all have sound machines. -/
structure Sound (b : Bench) : Prop where
  machine : b.interpreter.machine.Sound
  snapshots : ∀ s ∈ b.snapshots, s.machine.Sound

/-- A bench stays sound when it gets an interpreter with a sound machine. -/
theorem Sound.withInterpreter {b : Bench} (sound : b.Sound) {i : Interpreter}
    (machine : i.machine.Sound) : (b.withInterpreter i).Sound where
  machine := machine
  snapshots := sound.snapshots

/-- Every operation leaves a sound bench sound, one that ends in a fault included. -/
theorem Sound.apply {b : Bench} (sound : b.Sound) (operation : Operation) :
    (b.apply operation).Sound := by
  cases operation with
  | act action => exact sound.withInterpreter (b.interpreter.sound_act action sound.machine)
  | reset => exact sound.withInterpreter Machine.sound_initial
  | load program => exact sound.withInterpreter (b.interpreter.sound_load program sound.machine)
  | snapshot =>
    refine ⟨sound.machine, fun s member => ?_⟩
    rcases List.mem_append.mp member with old | new
    · exact sound.snapshots s old
    · obtain rfl := List.mem_singleton.mp new
      exact sound.machine
  | restore number =>
    rw [Bench.apply]
    cases found : b.snapshots[number]? with
    | none => exact sound
    | some s =>
      have taken := sound.snapshots s (List.mem_of_getElem? found)
      exact sound.withInterpreter (taken.resumed sound.machine.keypad)

/-- Every reachable bench is sound. -/
theorem Reachable.sound {b : Bench} (reached : b.Reachable) : b.Sound := by
  refine reached.induction ?_ fun _ operation holds => holds.apply operation
  intro dialect chance
  refine ⟨Machine.sound_initial, fun s member => ?_⟩
  cases member

end Bench

namespace Interpreter

/-- Whether every address that a step hands to the program counter arrives there whole: where an
instruction leads, and the address behind the instruction that began a wait. -/
structure KeepsAddresses (i : Interpreter) : Prop where
  executed : ∀ w instruction target left, i.machine.runState = .running →
    i.peek = .ok (w, instruction) →
    (Work.effect i.machine.pc instruction).run i = .ok target left →
    (left.machine.goTo target).pc = target
  woken : ∀ key, i.machine.runState = .awaitingKey →
    (storeKey i.machine key).pc = i.machine.pc + 2

/-- A sound machine has room for every address. -/
theorem keepsAddresses {i : Interpreter} (sound : i.machine.Sound) : i.KeepsAddresses where
  executed w instruction target left running seen done := by
    obtain ⟨fetched, _, _⟩ := (peek_eq_ok_iff i w instruction).mp seen
    have bounds := sound.destination_le i.dialect instruction fetched
    have destination := Work.target_effect done
    rw [← destination] at bounds
    exact Machine.toNat_ofInt target bounds.1 (by omega)
  woken key waiting := (sound.waiting waiting).pc_storeKey key

end Interpreter

namespace Machine

/-- The ranges of all parts of a machine, and what its run state says about them. -/
structure InRange (m : Machine) : Prop where
  memory : m.memory.cells.toList.length = 4096
  registers : ∀ x, (m.registers.get x).toNat ≤ 255
  index : m.registers.index.toNat < 65536
  delay : m.delay.value.toNat ≤ 255
  sound : m.sound.value.toNat ≤ 255
  pixels : ∀ x y, (m.screen.get y x).toNat ≤ 1
  keyRegister : m.keyRegister.val < 16
  depth : m.stack.depth ≤ 16
  frames : ∀ address ∈ m.stack.frames, 2 ≤ address ∧ address ≤ 0x1000
  pc : m.pc ≤ 0x10FE
  /-- A machine has a fault exactly when it has stopped, and then at that fault. -/
  fault : ∀ fault, m.fault = some fault ↔ m.runState = .halted fault
  waiting : m.runState = .awaitingKey → m.AtWait

/-- A sound machine is in range. -/
theorem Sound.inRange {m : Machine} (sound : m.Sound) : m.InRange where
  memory := by simp
  registers x := Nat.le_of_lt_succ (m.registers.get x).toNat_lt
  index := m.registers.index.toNat_lt
  delay := Nat.le_of_lt_succ m.delay.value.toNat_lt
  sound := Nat.le_of_lt_succ m.sound.value.toNat_lt
  pixels x y := Bool.toNat_le _
  keyRegister := m.keyRegister.isLt
  depth := sound.depth_le
  frames := sound.frames
  pc := sound.pc_le
  fault := sound.fault_iff
  waiting := sound.waiting

end Machine

namespace Bench

/-- Whatever a host does to an interpreter, its machine stays in range, and no address loses a bit
on its way into the program counter. -/
theorem reachable_inRange {b : Bench} (reached : b.Reachable) :
    b.interpreter.machine.InRange ∧ b.interpreter.KeepsAddresses :=
  ⟨reached.sound.machine.inRange, Interpreter.keepsAddresses reached.sound.machine⟩

/-- A program that waits for a key for the register `V3` reaches its wait. -/
theorem reachable_inRange_awaitingKey :
    let b := (fresh {} fun _ => 0).run [.load [0xF3, 0x0A], .act .step]
    b.Reachable ∧ b.interpreter.machine.runState = .awaitingKey ∧
      b.interpreter.machine.InRange ∧ b.interpreter.KeepsAddresses :=
  ⟨⟨_, _, _, rfl⟩, by decide +kernel, reachable_inRange ⟨_, _, _, rfl⟩⟩

end Bench

end Chip8
