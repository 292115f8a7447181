import Chip8.Proofs.Resume
import Chip8.Proofs.Timers

/-!
# Halted machines

A machine that has stopped at a fault has stopped for good. Main statement: whatever is done to it,
short of a new beginning or a return to a snapshot, every step and every frame with steps answers
with the fault that stopped it, ticks reach its timers, keys reach its keypad, and nothing else
changes. A snapshot of it, taken at any time and come back to at any time, is such a machine again.
-/

namespace Chip8

/-! ### Machines that agree on all but timers and keypad -/

/-- Whether two machines agree on all but the timers and the keypad. -/
structure Machine.Frozen (m n : Machine) : Prop where
  memory : n.memory = m.memory
  registers : n.registers = m.registers
  stack : n.stack = m.stack
  screen : n.screen = m.screen
  runState : n.runState = m.runState
  keyRegister : n.keyRegister = m.keyRegister
  fault : n.fault = m.fault

namespace Machine

/-- A machine agrees with itself. -/
theorem frozen_refl (m : Machine) : m.Frozen m :=
  ⟨rfl, rfl, rfl, rfl, rfl, rfl, rfl⟩

/-- A tick leaves all but the timers alone. -/
theorem frozen_tick (m : Machine) : m.Frozen m.tick :=
  ⟨rfl, rfl, rfl, rfl, rfl, rfl, rfl⟩

/-- Another keypad leaves all but the keypad alone. -/
theorem frozen_under (m : Machine) (keypad : Keypad) : m.Frozen (m.under keypad) :=
  ⟨rfl, rfl, rfl, rfl, rfl, rfl, rfl⟩

/-- What is left alone twice is left alone. -/
theorem Frozen.trans {m n o : Machine} (first : m.Frozen n) (second : n.Frozen o) :
    m.Frozen o where
  memory := second.memory.trans first.memory
  registers := second.registers.trans first.registers
  stack := second.stack.trans first.stack
  screen := second.screen.trans first.screen
  runState := second.runState.trans first.runState
  keyRegister := second.keyRegister.trans first.keyRegister
  fault := second.fault.trans first.fault

end Machine

/-! ### How a machine came to halt -/

/-- Whether a machine is, but for timers and keypad, as it was left by a step that stopped a running
machine at the fault. -/
inductive Machine.StoppedAt (fault : Fault) (m : Machine) : Prop
  | intro (b : Bench) (reached : b.Reachable) (running : b.interpreter.machine.runState = .running)
      (faulted : b.interpreter.step.answer = .error fault)
      (left : b.interpreter.step.interpreter.machine.Frozen m)

/-- Whether a machine that has halted was stopped by a step at the fault it has halted at. -/
def Machine.Explained (m : Machine) : Prop :=
  ∀ fault, m.runState = .halted fault → m.StoppedAt fault

namespace Machine

/-- A machine that has not halted needs no explanation. -/
theorem explained_of_ne {m : Machine} (going : ∀ fault, m.runState ≠ .halted fault) :
    m.Explained :=
  fun fault halted => absurd halted (going fault)

/-- A running machine needs no explanation. -/
theorem explained_of_running {m : Machine} (running : m.runState = .running) : m.Explained := by
  apply explained_of_ne
  intro fault halted
  rw [running] at halted
  cases halted

/-- What explains a machine explains those that agree with it. -/
theorem Explained.of_frozen {m n : Machine} (explained : m.Explained) (frozen : m.Frozen n) :
    n.Explained := by
  intro fault halted
  rw [frozen.runState] at halted
  obtain ⟨b, reached, running, faulted, left⟩ := explained fault halted
  exact ⟨b, reached, running, faulted, left.trans frozen⟩

/-- No instruction that is executed halts a running machine. -/
theorem Executed.not_halted {m next : Machine} {d : Dialect} {instruction : Instruction}
    (after : Executed m d instruction next) (running : m.runState = .running) (fault : Fault) :
    next.runState ≠ .halted fault := by
  rw [after.runState]
  cases instruction with
  | awaitKey x => exact nofun
  | _ =>
    change m.runState ≠ _
    rw [running]
    exact nofun

/-- Whether a machine is halted can be read off its run state. -/
theorem isHalted_eq_false_iff {m : Machine} :
    m.isHalted = false ↔ ∀ fault, m.runState ≠ .halted fault := by
  rw [isHalted]
  cases m.runState with
  | running => simp
  | awaitingKey => simp
  | halted fault => simp

/-- A machine at a fault is halted. -/
theorem isHalted_of_runState {m : Machine} {fault : Fault} (halted : m.runState = .halted fault) :
    m.isHalted = true := by
  rw [isHalted, halted]

end Machine

/-! ### How steps and frames end -/

namespace Interpreter

/-- Whether an answer says how the machine was left: at the fault, or not halted. -/
structure Tells {α : Type} (answer : Except Fault α) (left : Machine) : Prop where
  runState : ∀ fault, answer = .error fault → left.runState = .halted fault
  fault : ∀ fault, answer = .error fault → left.fault = some fault
  going : ∀ a, answer = .ok a → left.isHalted = false

/-- A machine that was left at a fault. -/
theorem tells_error {α : Type} {fault : Fault} {left : Machine}
    (runState : left.runState = .halted fault) (set : left.fault = some fault) :
    Tells (.error fault : Except Fault α) left where
  runState other same := by
    cases same
    exact runState
  fault other same := by
    cases same
    exact set
  going := nofun

/-- A machine that was not halted. -/
theorem tells_ok {α : Type} {a : α} {left : Machine} (going : left.isHalted = false) :
    Tells (.ok a : Except Fault α) left :=
  ⟨nofun, nofun, fun _ _ => going⟩

/-- The answer of a step says how the machine was left, unless it was halted before. -/
theorem tells_step {i : Interpreter} (going : i.machine.isHalted = false) :
    Tells i.step.answer i.step.interpreter.machine := by
  have amounts := i.stepped
  generalize i.step.answer = answer, i.step.interpreter = next at amounts
  cases amounts with
  | again fault halted => exact absurd halted (Machine.isHalted_eq_false_iff.mp going fault)
  | idle waiting silent => exact tells_ok going
  | woken key waiting struck => exact tells_ok rfl
  | faulted fault running obstructed => exact tells_error rfl rfl
  | executed w instruction next running seen ran =>
    obtain ⟨machine, done, rfl⟩ := ok_of_map_ok ran
    exact tells_ok (Machine.isHalted_eq_false_iff.mpr
      ((Machine.executed done).not_halted running))

/-- The answer of steps in a row says how the machine was left, unless it was halted before. -/
theorem tells_steps {i : Interpreter} (going : i.machine.isHalted = false) (n : Nat) :
    Tells (i.steps n).answer (i.steps n).interpreter.machine := by
  induction n generalizing i with
  | zero => exact tells_ok going
  | succ n ih =>
    have first := tells_step going
    rw [steps_succ]
    cases answer : i.step.answer with
    | error fault => exact tells_error (first.runState fault answer) (first.fault fault answer)
    | ok doing => exact ih (first.going doing answer)

/-- The answer of a frame says how the machine was left, unless it was halted before. -/
theorem tells_frame {i : Interpreter} (going : i.machine.isHalted = false) (cycles : Int) :
    Tells (i.frame cycles).answer (i.frame cycles).interpreter.machine := by
  have stepped := tells_steps going cycles.toNat
  rw [frame]
  cases answer : (i.steps cycles.toNat).answer with
  | error fault =>
    exact tells_error (stepped.runState fault answer) (stepped.fault fault answer)
  | ok done => exact tells_ok (stepped.going done answer)

end Interpreter

namespace Bench

/-- A run of a reachable bench leads to a reachable one. -/
theorem Reachable.run {b : Bench} (reached : b.Reachable) (operations : List Operation) :
    (b.run operations).Reachable := by
  obtain ⟨dialect, chance, past, rfl⟩ := reached
  exact ⟨dialect, chance, past ++ operations, List.foldl_append.symm⟩

/-- A step halts a running machine at the fault it answers with, or leaves it as explained as it
was. -/
theorem Reachable.explained_step {b : Bench} (reached : b.Reachable)
    (explained : b.interpreter.machine.Explained) :
    b.interpreter.step.interpreter.machine.Explained := by
  have amounts := b.interpreter.stepped
  generalize answered : b.interpreter.step.answer = answer,
    left : b.interpreter.step.interpreter = next at amounts
  cases amounts with
  | again fault halted => exact explained
  | idle waiting silent => exact explained
  | woken key waiting struck => exact Machine.explained_of_running rfl
  | faulted fault running obstructed =>
    intro other halted
    cases halted
    refine ⟨b, reached, running, answered, ?_⟩
    rw [left]
    exact Machine.frozen_refl _
  | executed w instruction next running seen ran =>
    obtain ⟨machine, done, rfl⟩ := ok_of_map_ok ran
    exact Machine.explained_of_ne ((Machine.executed done).not_halted running)

/-- An action leaves the machine of a reachable bench explained. -/
theorem Reachable.explained_act {b : Bench} (reached : b.Reachable)
    (explained : b.interpreter.machine.Explained) (action : Action) :
    (b.interpreter.act action).2.machine.Explained := by
  -- A step inside a frame is one of a reachable bench as well, so that is kept along with it.
  have one : ∀ i, (b.withInterpreter i).Reachable → ∀ action,
      (b.withInterpreter (i.act action).2).Reachable :=
    fun _ here action => here.run [.act action]
  have kept := Interpreter.act_keeps
    (P := fun i => (b.withInterpreter i).Reachable ∧ i.machine.Explained)
    (fun i ⟨here, known⟩ => ⟨one i here .step, here.explained_step known⟩)
    (fun i ⟨here, known⟩ => ⟨one i here .tick, known.of_frozen i.machine.frozen_tick⟩)
    (fun i k ⟨here, known⟩ => ⟨one i here (.keyDown k), known.of_frozen (i.machine.frozen_under _)⟩)
    (fun i k ⟨here, known⟩ => ⟨one i here (.keyUp k), known.of_frozen (i.machine.frozen_under _)⟩)
    action b.interpreter ⟨reached, explained⟩
  exact kept.2

/-- A reachable bench with a machine and snapshots that are explained. -/
structure Explained (b : Bench) : Prop where
  reached : b.Reachable
  machine : b.interpreter.machine.Explained
  snapshots : ∀ s ∈ b.snapshots, s.machine.Explained

/-- Every operation leaves a bench explained. -/
theorem Explained.apply {b : Bench} (known : b.Explained) (operation : Operation) :
    (b.apply operation).Explained := by
  refine ⟨known.reached.run [operation], ?_, ?_⟩
  · cases operation with
    | act action => exact known.reached.explained_act known.machine action
    | reset => exact Machine.explained_of_running rfl
    | load program =>
      simp only [Bench.apply, withInterpreter, Interpreter.load]
      cases Machine.initial.memory.loadProgram program with
      | error fault => exact known.machine
      | ok memory => exact Machine.explained_of_running rfl
    | snapshot => exact known.machine
    | restore number =>
      simp only [Bench.apply]
      cases found : b.snapshots[number]? with
      | none => exact known.machine
      | some s =>
        have taken := known.snapshots s (List.mem_of_getElem? found)
        exact taken.of_frozen (s.machine.frozen_under _)
  · cases operation with
    | snapshot =>
      intro s member
      rcases List.mem_append.mp member with old | new
      · exact known.snapshots s old
      · rw [List.mem_singleton.mp new]
        exact known.machine
    | restore number =>
      simp only [Bench.apply]
      cases b.snapshots[number]? with
      | none => exact known.snapshots
      | some s => exact known.snapshots
    | _ =>
      simp only [Bench.apply, withInterpreter]
      exact known.snapshots

/-- Every machine of a reachable bench that has halted was stopped by a step. -/
theorem Reachable.explained {b : Bench} (reached : b.Reachable) : b.Explained := by
  refine reached.induction ?_ fun _ operation known => known.apply operation
  intro dialect chance
  refine ⟨⟨dialect, chance, [], rfl⟩, Machine.explained_of_running rfl, fun s member => ?_⟩
  cases member

end Bench

/-! ### What reaches a halted machine -/

namespace Operation

/-- Whether an operation is neither a new beginning nor a return to a snapshot. -/
def staysOn : Operation → Bool
  | .act _ | .snapshot => true
  | _ => false

/-- Whether an operation is a tick for a halted machine. A frame is one if it has no steps. -/
def ticksAtRest : Operation → Bool
  | .act .tick => true
  | .act (.frame cycles) => cycles ≤ 0
  | _ => false

/-- What an operation makes of a keypad when the machine is halted. -/
def onKeypad (keypad : Keypad) : Operation → Keypad
  | .act (.keyDown k) => keypad.press k
  | .act (.keyUp k) => keypad.release k
  | _ => keypad

end Operation

namespace Interpreter

/-- Whether an interpreter has rested during some operations: only their ticks have reached its
timers and only their keys its keypad, and all else, the word it would look at and the random bytes
taken included, is as before. -/
structure Rested (i : Interpreter) (visits : List Operation) (now : Interpreter) : Prop where
  machine : i.machine.Frozen now.machine
  redraw : now.redraw = i.redraw
  taken : now.taken = i.taken
  word : now.peekWord = i.peekWord
  timers : ∀ t : Countdown, (t.timer now.machine).value.toNat =
    (t.timer i.machine).value.toNat - visits.countP Operation.ticksAtRest
  keypad : now.machine.keypad = visits.foldl Operation.onKeypad i.machine.keypad

/-- How a halted interpreter answers: every step and every frame with steps with the same fault. -/
structure HaltedAt (fault : Fault) (i : Interpreter) : Prop where
  runState : i.machine.runState = .halted fault
  error : i.machine.fault = some fault
  step : i.step.answer = .error fault
  frame : ∀ cycles, 1 ≤ cycles → (i.frame cycles).answer = .error fault

variable {i : Interpreter} {fault : Fault}

/-- A step of a halted machine answers with its fault and changes nothing. -/
theorem step_of_halted (halted : i.machine.runState = .halted fault) :
    i.step = { answer := .error fault, interpreter := i } := by
  simp only [step, halted]

/-- A frame of a halted machine ends at its first step. -/
theorem frame_of_halted (halted : i.machine.runState = .halted fault) {cycles : Int}
    (stepping : 1 ≤ cycles) :
    (i.frame cycles).answer = .error fault ∧ (i.frame cycles).interpreter = i := by
  obtain ⟨n, count⟩ : ∃ n, cycles.toNat = n + 1 := ⟨cycles.toNat - 1, by omega⟩
  rw [frame, count, steps_succ, step_of_halted halted]
  exact ⟨rfl, rfl⟩

/-- A frame without steps is a tick. -/
theorem frame_of_nonpos (i : Interpreter) {cycles : Int} (none : cycles ≤ 0) :
    (i.frame cycles).interpreter = i.tick := by
  have count : cycles.toNat = 0 := by omega
  rw [frame, count]
  rfl

/-- What neither ticks nor is a key changes nothing while an interpreter rests. -/
theorem rested_same (i : Interpreter) {operation : Operation}
    (still : operation.ticksAtRest = false)
    (silent : i.machine.keypad = Operation.onKeypad i.machine.keypad operation) :
    i.Rested [operation] i where
  machine := i.machine.frozen_refl
  redraw := rfl
  taken := rfl
  word := rfl
  timers t := by
    rw [List.countP_singleton, still, if_neg Bool.false_ne_true, Nat.sub_zero]
  keypad := silent

/-- A tick takes one away from the timers and changes nothing else. -/
theorem rested_tick (i : Interpreter) {operation : Operation}
    (ticking : operation.ticksAtRest = true)
    (silent : i.machine.keypad = Operation.onKeypad i.machine.keypad operation) :
    i.Rested [operation] i.tick where
  machine := i.machine.frozen_tick
  redraw := rfl
  taken := rfl
  word := rfl
  timers t := by
    change (t.timer i.machine.tick).value.toNat = _
    rw [Countdown.timer_tick, Timer.toNat_tick, List.countP_singleton, ticking, if_pos rfl]
  keypad := silent

/-- A key changes the keypad and nothing else. -/
theorem rested_key (i : Interpreter) {operation : Operation}
    (still : operation.ticksAtRest = false) :
    i.Rested [operation]
      (i.onMachine fun m => m.under (Operation.onKeypad m.keypad operation)) where
  machine := i.machine.frozen_under _
  redraw := rfl
  taken := rfl
  word := rfl
  timers t := by
    rw [List.countP_singleton, still, if_neg Bool.false_ne_true, Nat.sub_zero]
    cases t with
    | _ => rfl
  keypad := rfl

/-- Rest goes on. -/
theorem Rested.cons {operation : Operation} {visits : List Operation} {j k : Interpreter}
    (first : i.Rested [operation] j) (later : j.Rested visits k) :
    i.Rested (operation :: visits) k where
  machine := first.machine.trans later.machine
  redraw := later.redraw.trans first.redraw
  taken := later.taken.trans first.taken
  word := later.word.trans first.word
  timers t := by
    have before := first.timers t
    have after := later.timers t
    rw [List.countP_singleton] at before
    rw [List.countP_cons]
    omega
  keypad := by
    have before := first.keypad
    rw [List.foldl_cons, List.foldl_nil] at before
    rw [later.keypad, before, List.foldl_cons]

end Interpreter

namespace Bench

open Interpreter

variable {b : Bench} {fault : Fault}

/-- A halted machine rests during every operation that stays on. -/
theorem rested_apply (halted : b.interpreter.machine.runState = .halted fault)
    {operation : Operation} (stays : operation.staysOn = true) :
    b.interpreter.Rested [operation] (b.apply operation).interpreter := by
  cases operation with
  | act action =>
    cases action with
    | step =>
      have same : b.interpreter.step.interpreter = b.interpreter := by
        rw [step_of_halted halted]
      change b.interpreter.Rested _ b.interpreter.step.interpreter
      rw [same]
      exact b.interpreter.rested_same rfl rfl
    | frame cycles =>
      change b.interpreter.Rested _ (b.interpreter.frame cycles).interpreter
      by_cases stepping : 1 ≤ cycles
      · have still : (Operation.act (.frame cycles)).ticksAtRest = false :=
          decide_eq_false (by omega)
        rw [(frame_of_halted halted stepping).2]
        exact b.interpreter.rested_same still rfl
      · have ticking : (Operation.act (.frame cycles)).ticksAtRest = true :=
          decide_eq_true (by omega)
        rw [b.interpreter.frame_of_nonpos (by omega)]
        exact b.interpreter.rested_tick ticking rfl
    | tick => exact b.interpreter.rested_tick rfl rfl
    | keyDown k => exact b.interpreter.rested_key rfl
    | keyUp k => exact b.interpreter.rested_key rfl
  | snapshot => exact b.interpreter.rested_same rfl rfl
  | reset => cases stays
  | load program => cases stays
  | restore number => cases stays

/-- A halted machine rests during all operations that stay on. -/
theorem rested_run (halted : b.interpreter.machine.runState = .halted fault)
    (visits : List Operation) (stay : ∀ operation ∈ visits, operation.staysOn = true) :
    b.interpreter.Rested visits (b.run visits).interpreter := by
  induction visits generalizing b with
  | nil => exact ⟨b.interpreter.machine.frozen_refl, rfl, rfl, rfl, fun _ => rfl, rfl⟩
  | cons operation visits ih =>
    obtain ⟨here, later⟩ := List.forall_mem_cons.mp stay
    have first := b.rested_apply halted here
    have still_halted := first.machine.runState.trans halted
    exact first.cons (ih still_halted later)

/-- A halted machine that can be reached keeps its fault and answers with it. -/
theorem Reachable.haltedAt (reached : b.Reachable)
    (halted : b.interpreter.machine.runState = .halted fault) :
    b.interpreter.HaltedAt fault where
  runState := halted
  error := (reached.sound.machine.fault_iff fault).mpr halted
  step := by rw [step_of_halted halted]
  frame cycles stepping := (frame_of_halted halted stepping).1

/-- Coming back to a snapshot of a halted machine halts at the same fault. -/
theorem runState_comeBack (halted : b.interpreter.machine.runState = .halted fault)
    (operations : List Operation) :
    (b.comeBack operations).interpreter.machine.runState = .halted fault := by
  rw [comeBack_eq]
  exact halted

/-- A reachable machine that has halted was stopped by a step at its fault, and is as it was left
but for timers and keypad. Whatever is done to it short of a new beginning or a return, it answers
with that fault and rests. Take a snapshot of it then, go through any operations, and come back:
whatever is done to it from there on, short of a new beginning or a return, it answers with the same
fault. -/
theorem halted_for_good (reached : b.Reachable)
    (halted : b.interpreter.machine.runState = .halted fault) :
    b.interpreter.machine.StoppedAt fault ∧
      ∀ visits, (∀ operation ∈ visits, operation.staysOn = true) →
        (b.run visits).interpreter.HaltedAt fault ∧
          b.interpreter.Rested visits (b.run visits).interpreter ∧
          ∀ operations later, (∀ operation ∈ later, operation.staysOn = true) →
            (((b.run visits).comeBack operations).run later).interpreter.HaltedAt fault := by
  refine ⟨reached.explained.machine fault halted, fun visits stay => ?_⟩
  have rested := rested_run halted visits stay
  have here := reached.run visits
  have still_halted := rested.machine.runState.trans halted
  refine ⟨here.haltedAt still_halted, rested, fun operations later stay_later => ?_⟩
  have back := here.run (.snapshot :: operations) |>.run [.restore (b.run visits).snapshots.length]
  have halted_again := runState_comeBack still_halted operations
  have rested_again := rested_run halted_again later stay_later
  exact (back.run later).haltedAt (rested_again.machine.runState.trans halted_again)

/-- A program sets the delay timer to five and returns without a call. The frames with steps that
follow make no tick, a tick and an empty frame make one each, and the snapshot taken behind them
halts again after a reset. -/
theorem halted_for_good_return :
    let b := (fresh {} fun _ => 0).run
      [.load [0x60, 0x05, 0xF0, 0x15, 0x00, 0xEE], .act (.frame 5)]
    let visits := [.act (.frame 3), .act .tick, .act (.keyDown 4), .act .step, .act (.frame 0)]
    b.interpreter.machine.StoppedAt .stackUnderflow ∧
      (b.run visits).interpreter.HaltedAt .stackUnderflow ∧
      (b.run visits).interpreter.machine.delay.value.toNat = 3 ∧
      ((b.run visits).comeBack [.reset]).interpreter.HaltedAt .stackUnderflow := by
  intro b visits
  have reached : b.Reachable := ⟨_, _, _, rfl⟩
  have evaluated : b.interpreter.machine.runState = .halted .stackUnderflow ∧
      b.interpreter.machine.delay.value.toNat = 5 := by decide +kernel
  obtain ⟨halted, delay⟩ := evaluated
  obtain ⟨stopped, good⟩ := halted_for_good reached halted
  obtain ⟨answers, rested, back⟩ := good visits (by decide)
  have ticks : visits.countP Operation.ticksAtRest = 2 := by decide
  have timer := rested.timers .delay
  simp only [Countdown.timer, ticks, delay] at timer
  exact ⟨stopped, answers, timer, back [.reset] [] (List.forall_mem_nil _)⟩

end Bench

end Chip8
