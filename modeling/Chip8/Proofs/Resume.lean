import Chip8.Proofs.Invariant

/-!
# Coming back to a snapshot

A snapshot does not keep the keypad: the machine that comes back has the keypad that is there then,
with its own book on waits. Main statement: if the same keys are down as when the snapshot was
taken, and no key had been struck in a pending wait, the machine that comes back answers for ever
like one that went on from the snapshot, and looks like it after every action. The proof follows two
interpreters that differ in the book alone while no wait is pending, and not at all during a wait.
-/

namespace Chip8

/-- Whether two machines look alike: they agree on all but the book that the keypad keeps on
waits. -/
structure Machine.Alike (m n : Machine) : Prop where
  memory : m.memory = n.memory
  registers : m.registers = n.registers
  stack : m.stack = n.stack
  delay : m.delay = n.delay
  sound : m.sound = n.sound
  screen : m.screen = n.screen
  pressed : m.keypad.pressed = n.keypad.pressed
  runState : m.runState = n.runState
  keyRegister : m.keyRegister = n.keyRegister
  fault : m.fault = n.fault

namespace Machine

/-- The machine under another keypad. -/
def under (m : Machine) (keypad : Keypad) : Machine :=
  { m with keypad := keypad }

/-- A machine looks like itself under another keypad with the same keys down. -/
theorem alike_under {m : Machine} {keypad : Keypad} (same : keypad.pressed = m.keypad.pressed) :
    m.Alike (m.under keypad) :=
  ⟨rfl, rfl, rfl, rfl, rfl, rfl, same.symm, rfl, rfl, rfl⟩

/-- Conditions look at no more of the keypad than the keys that are down. -/
theorem satisfies_under {m : Machine} {keypad : Keypad} (same : keypad.pressed = m.keypad.pressed)
    (condition : Condition) : (m.under keypad).satisfies condition = m.satisfies condition := by
  cases condition with
  | keyDown x =>
    simp only [satisfies, under, Keypad.isPressed, same]
  | keyUp x =>
    simp only [satisfies, under, Keypad.isPressed, same]
  | _ => rfl

/-- What is executed under another keypad with the same keys down comes to the same, but that the
keypad becomes what the instruction makes of it. -/
theorem execute_under {m : Machine} {keypad : Keypad} (same : keypad.pressed = m.keypad.pressed)
    (d : Dialect) (chance : UInt8) (instruction : Instruction) :
    (m.under keypad).execute d chance instruction =
      (m.execute d chance instruction).map fun next =>
        next.under ((m.under keypad).keypadAfter instruction) := by
  cases instruction with
  | ret =>
    simp only [execute, under]
    cases m.stack.pop with
    | error fault => rfl
    | ok top => rfl
  | call target =>
    simp only [execute, under]
    change (m.stack.push m.nextPC).map _ = _
    cases m.stack.push m.nextPC with
    | error fault => rfl
    | ok stack => rfl
  | skip condition =>
    simp only [execute, satisfies_under same]
    cases m.satisfies condition with
    | false => rfl
    | true => rfl
  | addIndex x =>
    simp only [execute, addIndex]
    cases d.indexSetsFlag with
    | false => rfl
    | true => rfl
  | storeDecimal x =>
    simp only [execute]
    change (m.memory.writeBytes m.blockStart (decimalDigits (m.registers.get x))).map _ = _
    cases m.memory.writeBytes m.blockStart (decimalDigits (m.registers.get x)) with
    | error fault => rfl
    | ok memory => rfl
  | storeRegisters x =>
    simp only [execute, passBlock]
    change (m.memory.writeBytes m.blockStart (m.registers.firstThrough x)).map _ = _
    cases m.memory.writeBytes m.blockStart (m.registers.firstThrough x) with
    | error fault => rfl
    | ok memory =>
      cases d.blockMovesIndex with
      | false => rfl
      | true => rfl
  | loadRegisters x =>
    simp only [execute, passBlock]
    change (m.memory.readBlock m.blockStart (x + 1 : Nat)).map _ = _
    cases m.memory.readBlock m.blockStart (x + 1 : Nat) with
    | error fault => rfl
    | ok bytes =>
      cases d.blockMovesIndex with
      | false => rfl
      | true => rfl
  | draw x y rows =>
    simp only [execute]
    change (m.memory.readBlock m.blockStart rows.val).map _ = _
    cases m.memory.readBlock m.blockStart rows.val with
    | error fault => rfl
    | ok bytes => rfl
  | _ => rfl

end Machine

/-- Whether the random bytes that two interpreters take from now on are the same. -/
def Interpreter.SameChance (i j : Interpreter) : Prop :=
  ∀ n, i.chance (i.taken + n) = j.chance (j.taken + n)

/-- Two interpreters that differ at most in the book on waits while no wait is pending, in the
number of random bytes taken before, and in the mark on the screen. -/
structure Interpreter.Twin (i j : Interpreter) : Prop where
  dialect : i.dialect = j.dialect
  chance : i.SameChance j
  machine : j.machine = i.machine.under j.machine.keypad
  pressed : j.machine.keypad.pressed = i.machine.keypad.pressed
  waiting : i.machine.runState = .awaitingKey → j.machine.keypad = i.machine.keypad

/-- The interpreter that executes an instruction beside another one, which becomes `next`. -/
def Interpreter.following (j : Interpreter) (instruction : Instruction) (next : Interpreter) :
    Interpreter :=
  { j with
    machine := next.machine.under (j.machine.keypadAfter instruction)
    taken := j.taken + instruction.takes
    redraw := instruction.redraws || j.redraw }

namespace Interpreter.Twin

variable {i j : Interpreter}

/-- Twins look alike. -/
theorem alike (twin : Twin i j) : i.machine.Alike j.machine := by
  rw [twin.machine]
  exact Machine.alike_under twin.pressed

/-- Twins are in the same run state. -/
theorem runState (twin : Twin i j) : j.machine.runState = i.machine.runState :=
  twin.alike.runState.symm

/-- Twins that wait for a key have the same machine. -/
theorem machine_of_waiting (twin : Twin i j) (waiting : i.machine.runState = .awaitingKey) :
    j.machine = i.machine := by
  rw [twin.machine, twin.waiting waiting]
  rfl

/-- Twins see the same instruction at the program counter. -/
theorem peek (twin : Twin i j) : j.peek = i.peek := by
  simp only [Interpreter.peek, fetch, Machine.pc, ← twin.alike.memory, ← twin.alike.registers]

/-- Twins take the same next random byte. -/
theorem next_chance (twin : Twin i j) : j.chance j.taken = i.chance i.taken :=
  (twin.chance 0).symm

/-- Twins execute an instruction with the same outcome. -/
theorem execute (twin : Twin i j) (instruction : Instruction) :
    j.execute instruction = (i.execute instruction).map (j.following instruction) := by
  have under := Machine.execute_under twin.pressed i.dialect (i.chance i.taken) instruction
  rw [← twin.machine] at under
  rw [Interpreter.execute, Interpreter.execute, ← twin.dialect, twin.next_chance, under]
  cases i.machine.execute i.dialect (i.chance i.taken) instruction with
  | error fault => rfl
  | ok machine => simp only [Except.map, Interpreter.following, twin.dialect]

/-- Running twins stay twins when they execute an instruction. -/
theorem following (twin : Twin i j) {instruction : Instruction} {next : Interpreter}
    (running : i.machine.runState = .running) (ran : i.execute instruction = .ok next) :
    Twin next (j.following instruction next) := by
  obtain ⟨machine, done, rfl⟩ := ok_of_map_ok ran
  have after := Machine.executed done
  refine ⟨twin.dialect, ?_, rfl, ?_, ?_⟩
  · intro n
    have later := twin.chance (instruction.takes + n)
    rw [← Nat.add_assoc, ← Nat.add_assoc] at later
    exact later
  · change (j.machine.keypadAfter instruction).pressed = machine.keypad.pressed
    rw [after.keypad]
    cases instruction with
    | _ => exact twin.pressed
  · intro waiting
    change machine.runState = .awaitingKey at waiting
    change j.machine.keypadAfter instruction = machine.keypad
    rw [after.runState] at waiting
    rw [after.keypad]
    cases instruction with
    | awaitKey x =>
      simp only [Machine.keypadAfter, Keypad.beginWait, twin.pressed]
    | _ =>
      simp only [Machine.runStateAfter, running] at waiting
      cases waiting

/-- The same change of both machines keeps twins if it spares the keypad and begins no wait. -/
theorem stopped (twin : Twin i j) (fault : Fault) : Twin (i.stopped fault) (j.stopped fault) where
  dialect := twin.dialect
  chance := twin.chance
  machine := by
    change { j.machine with runState := .halted fault, fault := some fault } = _
    rw [twin.machine]
    rfl
  pressed := twin.pressed
  waiting waits := by cases waits

/-- Twins that wait for a key stay twins under any change that makes no difference between equal
machines. -/
theorem onMachine_of_waiting (twin : Twin i j) (waiting : i.machine.runState = .awaitingKey)
    (f : Machine → Machine) : Twin (i.onMachine f) (j.onMachine f) where
  dialect := twin.dialect
  chance := twin.chance
  machine := by
    rw [onMachine, onMachine, twin.machine_of_waiting waiting]
    rfl
  pressed := by rw [onMachine, onMachine, twin.machine_of_waiting waiting]
  waiting _ := by rw [onMachine, onMachine, twin.machine_of_waiting waiting]

/-- Twins answer a step alike and stay twins. -/
theorem step (twin : Twin i j) :
    j.step.answer = i.step.answer ∧ Twin i.step.interpreter j.step.interpreter := by
  simp only [Interpreter.step, twin.runState]
  cases doing : i.machine.runState with
  | halted fault => exact ⟨rfl, twin⟩
  | awaitingKey =>
    simp only [stepAwaitingKey, twin.machine_of_waiting doing]
    cases i.machine.keypad.newlyPressed with
    | none => exact ⟨rfl, twin⟩
    | some key => exact ⟨rfl, twin.onMachine_of_waiting doing (storeKey · key)⟩
  | running =>
    simp only [stepRunning, twin.peek]
    cases i.peek with
    | error fault => exact ⟨rfl, twin.stopped fault⟩
    | ok pair =>
      obtain ⟨w, instruction⟩ := pair
      simp only [Work.carryOut_run, twin.execute]
      cases ran : i.execute instruction with
      | error fault => exact ⟨rfl, twin.stopped fault⟩
      | ok next => exact ⟨rfl, twin.following doing ran⟩

/-- A tick keeps twins. -/
theorem tick (twin : Twin i j) : Twin i.tick j.tick where
  dialect := twin.dialect
  chance := twin.chance
  machine := by
    change j.machine.tick = _
    rw [twin.machine]
    rfl
  pressed := twin.pressed
  waiting := twin.waiting

/-- A change of both keypads keeps twins if the keys that are down afterwards depend only on those
that were down before. -/
theorem onKeypad (twin : Twin i j) (f : Keypad → Keypad)
    (pressed : ∀ p q : Keypad, p.pressed = q.pressed → (f p).pressed = (f q).pressed) :
    Twin (i.onMachine fun m => m.under (f m.keypad))
      (j.onMachine fun m => m.under (f m.keypad)) where
  dialect := twin.dialect
  chance := twin.chance
  machine := by
    change j.machine.under (f j.machine.keypad) = _
    rw [twin.machine]
    rfl
  pressed := pressed _ _ twin.pressed
  waiting waits := congrArg f (twin.waiting waits)

/-- A key that goes down keeps twins. -/
theorem keyDown (twin : Twin i j) (k : Int) :
    Twin (i.onMachine fun m => m.keyDown k) (j.onMachine fun m => m.keyDown k) := by
  refine twin.onKeypad (fun p => p.press k) ?_
  intro p q same
  apply KeySet.ext
  intro l
  rw [Keypad.pressed_press, Keypad.pressed_press, same]

/-- A key that goes up keeps twins. -/
theorem keyUp (twin : Twin i j) (k : Int) :
    Twin (i.onMachine fun m => m.keyUp k) (j.onMachine fun m => m.keyUp k) := by
  refine twin.onKeypad (fun p => p.release k) ?_
  intro p q same
  apply KeySet.ext
  intro l
  rw [Keypad.pressed_release, Keypad.pressed_release, same]

/-- Twins go in lockstep. -/
theorem lockstep : Lockstep Twin where
  runState := runState
  step := step
  tick := tick
  keyDown k twin := twin.keyDown k
  keyUp k twin := twin.keyUp k

/-- Twins answer all actions alike and look alike afterwards. -/
theorem play (twin : Twin i j) (actions : List Action) :
    j.answers actions = i.answers actions ∧ Twin (i.play actions) (j.play actions) :=
  lockstep.play twin actions

end Interpreter.Twin

namespace Interpreter

/-- Whether an interpreter has the dialect and the source of random bytes of another one. -/
def SameOrigin (i j : Interpreter) : Prop :=
  i.dialect = j.dialect ∧ i.chance = j.chance

/-- The same origin is passed on. -/
theorem SameOrigin.trans {i j k : Interpreter} (first : i.SameOrigin j) (second : j.SameOrigin k) :
    i.SameOrigin k :=
  ⟨first.1.trans second.1, first.2.trans second.2⟩

/-- Another machine has the same origin. -/
theorem sameOrigin_replaceMachine (i : Interpreter) (machine : Machine) :
    (i.replaceMachine machine).SameOrigin i :=
  ⟨rfl, rfl⟩

/-- A step keeps the dialect and the source of random bytes. -/
theorem sameOrigin_step (i : Interpreter) : i.step.interpreter.SameOrigin i := by
  have amounts := i.stepped
  generalize i.step.answer = answer, i.step.interpreter = next at amounts
  cases amounts with
  | executed w instruction next running seen ran =>
    obtain ⟨machine, done, rfl⟩ := ok_of_map_ok ran
    exact ⟨rfl, rfl⟩
  | _ => exact ⟨rfl, rfl⟩

/-- An action keeps the dialect and the source of random bytes. -/
theorem sameOrigin_act (i : Interpreter) (action : Action) : (i.act action).2.SameOrigin i :=
  act_keeps (P := fun j => j.SameOrigin i) (fun j same => j.sameOrigin_step.trans same)
    (fun _ same => same) (fun _ _ same => same) (fun _ _ same => same) action i ⟨rfl, rfl⟩

end Interpreter

namespace Bench

/-- What no operation changes: the dialect, the source of random bytes, and the snapshots that have
been taken. -/
structure Extends (b c : Bench) : Prop where
  origin : c.interpreter.SameOrigin b.interpreter
  snapshots : b.snapshots <+: c.snapshots

/-- A bench is extended by an interpreter of the same origin. -/
theorem extends_withInterpreter (b : Bench) {i : Interpreter} (same : i.SameOrigin b.interpreter) :
    b.Extends (b.withInterpreter i) where
  origin := same
  snapshots := List.prefix_rfl

/-- A bench extends itself. -/
theorem extends_refl (b : Bench) : b.Extends b where
  origin := ⟨rfl, rfl⟩
  snapshots := List.prefix_rfl

/-- An operation extends a bench. -/
theorem extends_apply (b : Bench) (operation : Operation) : b.Extends (b.apply operation) := by
  cases operation with
  | act action => exact b.extends_withInterpreter (b.interpreter.sameOrigin_act action)
  | reset => exact b.extends_withInterpreter (b.interpreter.sameOrigin_replaceMachine _)
  | load program =>
    refine b.extends_withInterpreter ?_
    rw [Interpreter.load]
    cases Machine.initial.memory.loadProgram program with
    | error fault => exact ⟨rfl, rfl⟩
    | ok memory => exact b.interpreter.sameOrigin_replaceMachine _
  | snapshot => exact ⟨⟨rfl, rfl⟩, List.prefix_append _ _⟩
  | restore number =>
    rw [apply]
    cases b.snapshots[number]? with
    | none => exact b.extends_refl
    | some s => exact b.extends_withInterpreter (b.interpreter.sameOrigin_replaceMachine _)

/-- A run extends a bench. -/
theorem extends_run (b : Bench) (operations : List Operation) : b.Extends (b.run operations) := by
  induction operations generalizing b with
  | nil => exact b.extends_refl
  | cons operation operations ih =>
    have first := b.extends_apply operation
    have rest := ih (b.apply operation)
    exact ⟨rest.origin.trans first.origin, first.snapshots.trans rest.snapshots⟩

/-- Takes a snapshot, goes through some operations, and comes back to the snapshot. -/
def comeBack (b : Bench) (operations : List Operation) : Bench :=
  (b.run (.snapshot :: operations)).apply (.restore b.snapshots.length)

/-- Coming back puts the machine of the snapshot under the keypad that is there. -/
theorem comeBack_eq (b : Bench) (operations : List Operation) :
    (b.comeBack operations).interpreter =
      ((b.run (.snapshot :: operations)).interpreter.restore
        b.interpreter.snapshot).interpreter := by
  obtain ⟨more, kept⟩ := ((b.apply .snapshot).extends_run operations).snapshots
  have found : (b.run (.snapshot :: operations)).snapshots[b.snapshots.length]? =
      some b.interpreter.snapshot := by
    change ((b.apply .snapshot).run operations).snapshots[b.snapshots.length]? = _
    rw [← kept, apply, List.append_assoc, List.getElem?_append_right (le_refl _), Nat.sub_self]
    rfl
  rw [comeBack, apply, found]
  rfl

/-- Coming back changes neither the dialect nor the source of random bytes. -/
theorem sameOrigin_comeBack (b : Bench) (operations : List Operation) :
    (b.comeBack operations).interpreter.SameOrigin b.interpreter := by
  rw [comeBack_eq]
  exact (b.extends_run (.snapshot :: operations)).origin

end Bench

/-- A wait in which no key has been struck is as if it began anew. -/
theorem Keypad.Consistent.beginWait_eq {p q : Keypad} (consistent : p.Consistent)
    (armed : p.armed = true) (untapped : p.taps = {}) (same : q.pressed = p.pressed) :
    q.beginWait = p := by
  have held : p.pressed = p.held := by
    apply KeySet.ext
    intro k
    cases down : p.pressed.contains k with
    | false =>
      have up : ¬p.held.contains k = true := by
        intro member
        rw [consistent.held k member] at down
        cases down
      rw [Bool.not_eq_true] at up
      exact up.symm
    | true =>
      cases member : p.held.contains k with
      | true => rfl
      | false =>
        have tapped := consistent.struck armed k down member
        rw [untapped, KeySet.contains_empty] at tapped
        cases tapped
  rw [Keypad.beginWait, same]
  cases p with
  | mk pressed held' taps armed' =>
    simp only at armed untapped held
    rw [armed, untapped, ← held]

namespace Bench

/-- An interpreter that went on from a snapshot and one that came back to it are twins. -/
theorem Reachable.twin {b : Bench} (reached : b.Reachable)
    (untapped : b.interpreter.machine.runState = .awaitingKey →
      b.interpreter.machine.keypad.taps = {})
    {keypad : Keypad} (same : keypad.pressed = b.interpreter.machine.keypad.pressed)
    {i j : Interpreter} (went : i.machine = b.interpreter.machine)
    (came : j.machine = Interpreter.resumed b.interpreter.snapshot keypad)
    (dialect : i.dialect = j.dialect) (chance : i.SameChance j) : i.Twin j := by
  have sound := reached.sound.machine
  have resumed : ∃ keypad', j.machine = i.machine.under keypad' ∧
      keypad'.pressed = i.machine.keypad.pressed ∧
      (i.machine.runState = .awaitingKey → keypad' = i.machine.keypad) := by
    rw [came, went]
    by_cases awaiting : b.interpreter.machine.isAwaitingKey = true
    · have waits := Machine.isAwaitingKey_iff.mp awaiting
      have begun := sound.keypad.beginWait_eq (sound.waiting waits).armed (untapped waits) same
      refine ⟨keypad.beginWait, ?_, same, fun _ => begun⟩
      rw [Interpreter.resumed, Interpreter.snapshot, if_pos awaiting, Machine.under]
    · refine ⟨keypad, ?_, same, fun waits => absurd (Machine.isAwaitingKey_iff.mpr waits) awaiting⟩
      rw [Interpreter.resumed, Interpreter.snapshot, if_neg awaiting, Machine.under]
  obtain ⟨keypad', machine, pressed, waiting⟩ := resumed
  have live : j.machine.keypad = keypad' := by
    rw [machine]
    rfl
  rw [← live] at machine pressed waiting
  exact ⟨dialect, chance, machine, pressed, waiting⟩

/-- Take a snapshot of a reachable interpreter, in a wait only if no key has been struck in it, go
through any operations, and come back when the same keys are down as then. From there on, whatever
the actions, the interpreter answers like one that went on from the snapshot with the same random
bytes, and looks like it afterwards. -/
theorem comeBack_resumes {b : Bench} (reached : b.Reachable)
    (untapped : b.interpreter.machine.runState = .awaitingKey →
      b.interpreter.machine.keypad.taps = {})
    (operations : List Operation)
    (same : (b.run (.snapshot :: operations)).interpreter.machine.keypad.pressed =
      b.interpreter.machine.keypad.pressed)
    (i : Interpreter) (machine : i.machine = b.interpreter.machine)
    (dialect : i.dialect = b.interpreter.dialect)
    (chance : i.SameChance (b.comeBack operations).interpreter) (actions : List Action) :
    (b.comeBack operations).interpreter.answers actions = i.answers actions ∧
      (i.play actions).machine.Alike
        ((b.comeBack operations).interpreter.play actions).machine := by
  have kept := (b.sameOrigin_comeBack operations).1
  have came : (b.comeBack operations).interpreter.machine =
      Interpreter.resumed b.interpreter.snapshot
        (b.run (.snapshot :: operations)).interpreter.machine.keypad := by
    rw [comeBack_eq]
    rfl
  have twin := reached.twin untapped same machine came (dialect.trans kept.symm) chance
  obtain ⟨answers, last⟩ := twin.play actions
  exact ⟨answers, last.alike⟩

/-- A snapshot of a wait with the key `1` down. Another key ends the wait, the machine is reset, and
the key `1` goes down again; then the wait resumes. -/
theorem comeBack_resumes_wait :
    let b := (fresh {} fun _ => 0).run [.load [0xF3, 0x0A], .act (.keyDown 1), .act .step]
    let operations := [.act (.keyDown 2), .act .step, .reset, .act (.keyDown 1)]
    b.Reachable ∧ b.interpreter.machine.runState = .awaitingKey ∧
      ∀ actions, (b.comeBack operations).interpreter.answers actions =
        b.interpreter.answers actions := by
  intro b operations
  have reached : b.Reachable := ⟨_, _, _, rfl⟩
  have constant : b.interpreter.chance = fun _ => 0 := (extends_run _ _).origin.2
  have chance : b.interpreter.SameChance (b.comeBack operations).interpreter := by
    intro n
    rw [(b.sameOrigin_comeBack operations).2, constant]
  refine ⟨reached, by decide +kernel, fun actions => ?_⟩
  exact (comeBack_resumes reached (fun _ => by decide +kernel) operations (by decide +kernel)
    b.interpreter rfl rfl chance actions).1

end Bench

end Chip8
