import Chip8.Proofs.Effects
import Chip8.Proofs.Trail
import Mathlib.Data.List.DropRight

/-!
# The history of the timers

A frame is a move for each of its steps and a tick at its end, so every run is a run of single
moves. Along these moves a timer is set by an instruction, by a new beginning and by coming back to
a snapshot, and it goes down by a tick, whatever the machine is doing. Main statement: at every
moment a timer holds what it was set to last less the ticks since then, and zero if there were more.
-/

namespace Chip8

/-! ### One timer -/

namespace Timer

/-- A tick takes one away, unless there is nothing left. -/
theorem toNat_tick (t : Timer) : t.tick.value.toNat = t.value.toNat - 1 := by
  rw [tick]
  by_cases out : t.value = 0
  · rw [if_pos out, out]
    rfl
  · rw [if_neg out]
    have some_left : t.value.toNat ≠ 0 := fun zero => out (UInt8.toNat_inj.mp zero)
    have enough : (1 : UInt8) ≤ t.value := by
      rw [UInt8.le_iff_toNat_le]
      change 1 ≤ t.value.toNat
      omega
    exact UInt8.toNat_sub_of_le _ _ enough

/-- A timer is active as long as there is something left. -/
theorem active_iff (t : Timer) : t.active = true ↔ 0 < t.value.toNat := by
  have zero_iff : t.value = 0 ↔ t.value.toNat = 0 := UInt8.toNat_inj.symm
  rw [active, decide_eq_true_iff, ne_eq, zero_iff]
  omega

end Timer

/-- The two timers of a machine. -/
inductive Countdown where
  | delay
  | sound
  deriving DecidableEq, Repr

namespace Countdown

/-- The timer in a machine. -/
def timer : Countdown → Machine → Timer
  | .delay, m => m.delay
  | .sound, m => m.sound

/-- The register that an instruction sets the timer from, if it sets it. -/
def setBy : Countdown → Instruction → Option Register
  | .delay, .setDelay x => some x
  | .sound, .setSound x => some x
  | _, _ => none

/-- A tick of the machine is a tick of both timers. -/
theorem timer_tick (t : Countdown) (m : Machine) : t.timer m.tick = (t.timer m).tick := by
  cases t with
  | delay => rfl
  | sound => rfl

/-- An instruction sets the timer from a register or leaves it alone. -/
theorem timer_execute (t : Countdown) {m next : Machine} {d : Dialect} {chance : UInt8}
    {instruction : Instruction} (ran : m.execute d chance instruction = .ok next) :
    t.timer next =
      match t.setBy instruction with
      | some x => ⟨m.registers.get x⟩
      | none => t.timer m := by
  have after := Machine.stored ran
  cases t with
  | delay =>
    rw [timer, after.delay]
    cases instruction with
    | _ => rfl
  | sound =>
    rw [timer, after.sound]
    cases instruction with
    | _ => rfl

/-- A step sets the timer if it executes an instruction that does, and leaves it alone if not. -/
theorem timer_step (t : Countdown) (i : Interpreter) :
    t.timer i.step.interpreter.machine =
      match i.executes.bind t.setBy with
      | some x => ⟨i.machine.registers.get x⟩
      | none => t.timer i.machine := by
  rcases i.executes_or_still with ⟨instruction, executed, _⟩ | ⟨nothing, still⟩
  · have ran := Interpreter.machine_execute_of_executes executed
    rw [t.timer_execute ran, executed]
    rfl
  · rw [nothing]
    cases t with
    | delay => exact still.delay
    | sound => exact still.sound

end Countdown

/-! ### Frames move by move -/

namespace Interpreter

/-- The moves that an action consists of. A frame is its steps, as far as they go, and then a tick
if none of them faulted. -/
def moves (i : Interpreter) : Action → List Action
  | .frame cycles =>
    List.replicate (stepsTrail cycles.toNat i).length .step ++
      match (i.frame cycles).answer with
      | .ok _ => [.tick]
      | .error _ => []
  | action => [action]

/-- The ways in which a frame goes: all of its steps and a tick, or the steps up to one that faults
and nothing behind it. -/
inductive FrameGoes (i : Interpreter) (cycles : Int) : Prop
  | whole (doing : RunState) (answer : (i.frame cycles).answer = .ok doing)
      (moves : i.moves (.frame cycles) = List.replicate cycles.toNat .step ++ [.tick])
      (accepted : ∀ answer ∈ i.answers (List.replicate cycles.toNat .step), answer.isOk = true)
  | broken (fault : Fault) (done : Nat) (early : done < cycles.toNat)
      (answer : (i.frame cycles).answer = .error fault)
      (moves : i.moves (.frame cycles) = List.replicate (done + 1) .step)
      (accepted : ∀ answer ∈ i.answers (List.replicate done .step), answer.isOk = true)
      (faulted : (i.play (List.replicate done .step)).step.answer = .error fault)

/-- Steps in a row are steps one by one, as many as are made before one faults. -/
theorem play_replicate_step (n : Nat) (i : Interpreter) :
    i.play (List.replicate (stepsTrail n i).length .step) = (i.steps n).interpreter := by
  induction n generalizing i with
  | zero => rfl
  | succ n ih =>
    rw [stepsTrail, steps_succ]
    cases i.step.answer with
    | error fault => rfl
    | ok doing => exact ih i.step.interpreter

/-- The moves of an action come to the action. -/
theorem play_moves (i : Interpreter) (action : Action) :
    i.play (i.moves action) = (i.act action).2 := by
  cases action with
  | frame cycles =>
    have steps := i.play_replicate_step cycles.toNat
    rw [moves, play, List.foldl_append]
    change List.foldl _ (i.play _) _ = (i.frame cycles).interpreter
    rw [steps, frame]
    cases (i.steps cycles.toNat).answer with
    | error fault => rfl
    | ok _ => rfl
  | _ => rfl

/-- The ways in which steps in a row go: all of them are made, or those up to one that faults. -/
inductive StepsGo (n : Nat) (i : Interpreter) : Prop
  | whole (answer : (i.steps n).answer = .ok ()) (length : (stepsTrail n i).length = n)
      (accepted : ∀ answer ∈ i.answers (List.replicate n .step), answer.isOk = true)
  | broken (fault : Fault) (done : Nat) (early : done < n)
      (answer : (i.steps n).answer = .error fault) (length : (stepsTrail n i).length = done + 1)
      (accepted : ∀ answer ∈ i.answers (List.replicate done .step), answer.isOk = true)
      (faulted : (i.play (List.replicate done .step)).step.answer = .error fault)

/-- Steps in a row go in one of these ways. -/
theorem stepsGo (n : Nat) (i : Interpreter) : StepsGo n i := by
  induction n generalizing i with
  | zero => exact .whole rfl rfl (List.forall_mem_nil _)
  | succ n ih =>
    have steps := i.steps_succ n
    cases first : i.step.answer with
    | error fault =>
      rw [first] at steps
      have length : (stepsTrail (n + 1) i).length = 1 := by
        rw [stepsTrail, first]
        rfl
      have answer : (i.steps (n + 1)).answer = .error fault := by rw [steps]
      exact .broken fault 0 n.succ_pos answer length (List.forall_mem_nil _) first
    | ok doing =>
      rw [first] at steps
      have answer : (i.steps (n + 1)).answer = (i.step.interpreter.steps n).answer := by rw [steps]
      have accepted : (i.act .step).1.isOk = true := by
        rw [act, first]
        rfl
      have length :
          (stepsTrail (n + 1) i).length = (stepsTrail n i.step.interpreter).length + 1 := by
        rw [stepsTrail_succ n first, List.length_cons]
      cases ih i.step.interpreter with
      | whole rest_answer rest_length rest =>
        exact .whole (answer.trans rest_answer) (by omega)
          (List.forall_mem_cons.mpr ⟨accepted, rest⟩)
      | broken fault done early rest_answer rest_length rest faulted =>
        exact .broken fault (done + 1) (by omega) (answer.trans rest_answer) (by omega)
          (List.forall_mem_cons.mpr ⟨accepted, rest⟩) faulted

/-- Every frame goes in one of its two ways. -/
theorem frameGoes (i : Interpreter) (cycles : Int) : FrameGoes i cycles := by
  cases i.stepsGo cycles.toNat with
  | whole ended length accepted =>
    have answer : (i.frame cycles).answer =
        .ok (i.steps cycles.toNat).interpreter.tick.machine.runState := by
      rw [frame, ended]
    refine .whole _ answer ?_ accepted
    rw [moves, answer, length]
  | broken fault done early ended length accepted faulted =>
    have answer : (i.frame cycles).answer = .error fault := by rw [frame, ended]
    refine .broken fault done early answer ?_ accepted faulted
    rw [moves, answer, length, List.append_nil]

end Interpreter

namespace Bench

/-- The operations that one operation consists of. -/
def single (b : Bench) : Operation → List Operation
  | .act action => (b.interpreter.moves action).map .act
  | operation => [operation]

/-- A run with its frames made move by move. -/
def unroll (b : Bench) : List Operation → List Operation
  | [] => []
  | operation :: operations => b.single operation ++ (b.apply operation).unroll operations

/-- A run of actions plays them. -/
theorem run_map_act (b : Bench) (actions : List Action) :
    b.run (actions.map .act) = b.withInterpreter (b.interpreter.play actions) := by
  induction actions generalizing b with
  | nil => rfl
  | cons action actions ih => exact ih (b.apply (.act action))

/-- The single operations of an operation come to the operation. -/
theorem run_single (b : Bench) (operation : Operation) :
    b.run (b.single operation) = b.apply operation := by
  cases operation with
  | act action =>
    rw [single, run_map_act, Interpreter.play_moves]
    rfl
  | _ => rfl

/-- A run move by move comes to the run. -/
theorem run_unroll (b : Bench) (operations : List Operation) :
    b.run (b.unroll operations) = b.run operations := by
  induction operations generalizing b with
  | nil => rfl
  | cons operation operations ih =>
    have first : b.run (b.single operation) = b.apply operation := b.run_single operation
    rw [unroll, run, List.foldl_append]
    change ((b.run (b.single operation)).run _) = (b.apply operation).run operations
    rw [first, ih]

end Bench

/-- Whether an operation is not a frame. -/
def Operation.isSingle : Operation → Bool
  | .act (.frame _) => false
  | _ => true

/-- The moves of an action are no frames. -/
theorem Interpreter.isSingle_moves (i : Interpreter) (action : Action) :
    ∀ move ∈ i.moves action, (Operation.act move).isSingle = true := by
  cases action with
  | frame cycles =>
    intro move member
    rcases List.mem_append.mp member with step | tick
    · rw [List.eq_of_mem_replicate step]
      rfl
    · split at tick
      · rw [List.mem_singleton.mp tick]
        rfl
      · cases tick
  | _ =>
    intro move member
    rw [List.mem_singleton.mp member]
    rfl

/-- A run move by move has no frames. -/
theorem Bench.isSingle_unroll (b : Bench) (operations : List Operation) :
    ∀ operation ∈ b.unroll operations, operation.isSingle = true := by
  induction operations generalizing b with
  | nil => exact List.forall_mem_nil _
  | cons operation operations ih =>
    intro single member
    rcases List.mem_append.mp member with here | later
    · cases operation with
      | act action =>
        obtain ⟨move, moved, rfl⟩ := List.mem_map.mp here
        exact b.interpreter.isSingle_moves action move moved
      | _ =>
        rw [List.mem_singleton.mp here]
        rfl
    · exact ih (b.apply operation) single later

/-! ### What sets a timer, and how long ago -/

/-- An operation and the bench in front of it. -/
structure Moment where
  bench : Bench
  operation : Operation

/-- Whether the operation is a tick. -/
def Moment.ticks (moment : Moment) : Bool :=
  moment.operation = .act .tick

/-- The moments of a run. -/
def Bench.history (b : Bench) : List Operation → List Moment
  | [] => []
  | operation :: operations => ⟨b, operation⟩ :: (b.apply operation).history operations

/-- One more operation is one more moment. -/
theorem Bench.history_concat (b : Bench) (operations : List Operation) (operation : Operation) :
    b.history (operations ++ [operation]) =
      b.history operations ++ [⟨b.run operations, operation⟩] := by
  induction operations generalizing b with
  | nil => rfl
  | cons first operations ih => exact congrArg _ (ih (b.apply first))

namespace Countdown

/-- What a timer is set to by an operation that is no frame, if it is set: the contents of a
register by an instruction that is executed, zero by a new beginning, and what it was by coming
back. -/
def setting (t : Countdown) (moment : Moment) : Option UInt8 :=
  let i := moment.bench.interpreter
  match moment.operation with
  | .act .step => (i.executes.bind t.setBy).map i.machine.registers.get
  | .act _ | .snapshot => none
  | .reset => some 0
  | .load program =>
    match (i.load program).answer with
    | .ok () => some 0
    | .error _ => none
  | .restore number => moment.bench.snapshots[number]?.map fun s => (t.timer s.machine).value

/-- What a timer was set to last. -/
def lastSetting (t : Countdown) (history : List Moment) : Option UInt8 :=
  history.reverse.findSome? t.setting

/-- The number of ticks since a timer was set last, or since the beginning. -/
def ticksSince (t : Countdown) (history : List Moment) : Nat :=
  (history.rtakeWhile fun moment => (t.setting moment).isNone).countP Moment.ticks

/-- An operation that sets a timer comes last and has no ticks behind it. -/
theorem since_of_setting (t : Countdown) (history : List Moment) {moment : Moment} {byte : UInt8}
    (set : t.setting moment = some byte) :
    t.lastSetting (history ++ [moment]) = some byte ∧ t.ticksSince (history ++ [moment]) = 0 := by
  constructor
  · rw [lastSetting, List.reverse_concat, List.findSome?_cons, set]
  · rw [ticksSince, List.rtakeWhile_concat_neg _ _ _ (by rw [set]; exact Bool.false_ne_true)]
    rfl

/-- An operation that does not set a timer leaves its last setting, and counts if it is a tick. -/
theorem since_of_no_setting (t : Countdown) (history : List Moment) {moment : Moment}
    (unset : t.setting moment = none) :
    t.lastSetting (history ++ [moment]) = t.lastSetting history ∧
      t.ticksSince (history ++ [moment]) =
        t.ticksSince history + if moment.ticks = true then 1 else 0 := by
  constructor
  · rw [lastSetting, List.reverse_concat, List.findSome?_cons, unset]
    rfl
  · rw [ticksSince, List.rtakeWhile_concat_pos _ _ _ (by rw [unset]; rfl), List.countP_append,
      List.countP_singleton]
    rfl

/-- What an operation that is no frame makes of a timer. -/
theorem value_apply (t : Countdown) (b : Bench) {operation : Operation}
    (single : operation.isSingle = true) :
    (t.timer (b.apply operation).interpreter.machine).value.toNat =
      match t.setting ⟨b, operation⟩ with
      | some byte => byte.toNat
      | none =>
        (t.timer b.interpreter.machine).value.toNat -
          if (Moment.mk b operation).ticks = true then 1 else 0 := by
  cases operation with
  | act action =>
    cases action with
    | step =>
      have after := t.timer_step b.interpreter
      change (t.timer b.interpreter.step.interpreter.machine).value.toNat = _
      rw [after, setting]
      cases b.interpreter.executes.bind t.setBy with
      | none => rfl
      | some x => rfl
    | frame cycles => cases single
    | tick =>
      change (t.timer b.interpreter.machine.tick).value.toNat = _
      rw [timer_tick, Timer.toNat_tick]
      rfl
    | keyDown k => cases t with | _ => rfl
    | keyUp k => cases t with | _ => rfl
  | reset => cases t with | _ => rfl
  | load program =>
    simp only [setting, Bench.apply, Bench.withInterpreter, Interpreter.load]
    cases Machine.initial.memory.loadProgram program with
    | error fault => rfl
    | ok memory => cases t with | _ => rfl
  | snapshot => rfl
  | restore number =>
    simp only [setting, Bench.apply]
    cases b.snapshots[number]? with
    | none => rfl
    | some s => cases t with | _ => rfl

/-- After any operations but frames a timer holds what it was set to last, or held at the beginning,
less the ticks since then. -/
theorem value_run (t : Countdown) (b : Bench) (operations : List Operation)
    (single : ∀ operation ∈ operations, operation.isSingle = true) :
    (t.timer (b.run operations).interpreter.machine).value.toNat =
      ((t.lastSetting (b.history operations)).getD (t.timer b.interpreter.machine).value).toNat -
        t.ticksSince (b.history operations) := by
  induction operations using List.reverseRecOn with
  | nil => rfl
  | append_singleton operations operation ih =>
    have before := ih fun other member => single other (List.mem_append_left _ member)
    have here : operation.isSingle = true :=
      single operation (List.mem_append_right _ List.mem_cons_self)
    have last := t.value_apply (b.run operations) here
    have after : b.run (operations ++ [operation]) = (b.run operations).apply operation :=
      List.foldl_concat _ _ _ _
    rw [after, last, b.history_concat]
    -- Either the last operation makes the history before it irrelevant, or it adds to it.
    cases set : t.setting ⟨b.run operations, operation⟩ with
    | some byte =>
      obtain ⟨setting, ticks⟩ := t.since_of_setting (b.history operations) set
      rw [setting, ticks]
      rfl
    | none =>
      obtain ⟨setting, ticks⟩ := t.since_of_no_setting (b.history operations) set
      rw [setting, ticks, ← Nat.sub_sub, ← before]

end Countdown

namespace Bench

/-- Make a run of a fresh interpreter move by move, which comes to the same. After every move each
timer holds what it was set to last, or zero if it never was, less the ticks since then, and it is
active while something is left. A tick is one tick whatever the machine is doing; a frame that
answers is its steps and then one tick, and a frame that faults ends with the step that faults. -/
theorem timers_follow_history (dialect : Dialect) (chance : Nat → UInt8)
    (operations : List Operation) :
    let b := fresh dialect chance
    b.run (b.unroll operations) = b.run operations ∧
      (∀ past, past <+: b.unroll operations → ∀ t : Countdown,
        let timer := t.timer (b.run past).interpreter.machine
        let set := (t.lastSetting (b.history past)).getD 0
        let left : Int := set.toNat - t.ticksSince (b.history past)
        (timer.value.toNat : Int) = max 0 left ∧ (timer.active = true ↔ 0 < left)) ∧
      (∀ (i : Interpreter) (t : Countdown),
        (t.timer (i.act .tick).2.machine).value.toNat =
          (t.timer i.machine).value.toNat - 1) ∧
      ∀ (i : Interpreter) (cycles : Int),
        i.FrameGoes cycles ∧ i.play (i.moves (.frame cycles)) = (i.frame cycles).interpreter := by
  intro b
  refine ⟨b.run_unroll operations, ?_, ?_, fun i cycles => ⟨i.frameGoes cycles, ?_⟩⟩
  · intro past beginning t timer set left
    have single : ∀ operation ∈ past, operation.isSingle = true := fun operation member =>
      b.isSingle_unroll operations operation (beginning.subset member)
    have zero : (t.timer b.interpreter.machine).value = 0 := by
      cases t with
      | _ => rfl
    have value := t.value_run b past single
    rw [zero] at value
    change timer.value.toNat = set.toNat - t.ticksSince (b.history past) at value
    have held : (timer.value.toNat : Int) = max 0 left := by omega
    refine ⟨held, ?_⟩
    rw [Timer.active_iff]
    omega
  · intro i t
    change (t.timer i.machine.tick).value.toNat = _
    rw [Countdown.timer_tick, Timer.toNat_tick]
  · exact i.play_moves (.frame cycles)

/-- A program sets the delay timer in a frame and then faults. The first frame ends with a tick, one
more tick follows, and the second frame makes one of its five steps and no tick. -/
theorem timers_follow_history_fault :
    let b := fresh {} fun _ => 0
    let program := [0x60, 0x05, 0xF0, 0x15, 0x00, 0xEE]
    let operations := [.load program, .act (.frame 2), .act .tick, .act (.frame 5)]
    let past := [.load program, .act .step, .act .step, .act .tick, .act .tick, .act .step]
    b.unroll operations = past ∧ (b.run past).interpreter.machine.delay.value.toNat = 3 := by
  intro b program operations past
  have evaluated : b.unroll operations = past ∧
      Countdown.delay.lastSetting (b.history past) = some 5 ∧
      Countdown.delay.ticksSince (b.history past) = 2 := by decide +kernel
  obtain ⟨unrolled, set, ticks⟩ := evaluated
  have beginning : past <+: b.unroll operations := ⟨[], (List.append_nil past).trans unrolled.symm⟩
  have law := (timers_follow_history {} (fun _ => 0) operations).2.1 past beginning .delay
  have held := law.1
  rw [set, ticks] at held
  exact ⟨unrolled, Int.ofNat.inj held⟩

end Bench

end Chip8
