import Chip8.Machine.Interpreter

/-!
# Runs

A run is any sequence of operations of the host on one interpreter. An action drives the program
that is loaded: a step, a frame, a tick, a key. An operation may also reset the machine, load a
program, take a snapshot, and come back to any of the snapshots taken before. A state is reachable
when some run leads to it from a fresh interpreter, whatever its dialect and its random bytes, and
operations that end in a fault belong to runs like all others. The main statements reduce what a run
keeps to what its single steps, ticks and keys keep.
-/

namespace Chip8

/-- What drives the program that is loaded. -/
inductive Action where
  | step
  /-- So many steps and a tick. -/
  | frame (cycles : Int)
  | tick
  | keyDown (k : Int)
  | keyUp (k : Int)
  deriving DecidableEq, Repr

namespace Interpreter

/-- The answer of an action and the interpreter afterwards. Ticks and keys answer nothing. -/
def act (i : Interpreter) : Action → Except Fault (Option RunState) × Interpreter
  | .step => (i.step.answer.map some, i.step.interpreter)
  | .frame cycles => ((i.frame cycles).answer.map some, (i.frame cycles).interpreter)
  | .tick => (.ok none, i.tick)
  | .keyDown k => (.ok none, i.onMachine fun m => m.keyDown k)
  | .keyUp k => (.ok none, i.onMachine fun m => m.keyUp k)

/-- The interpreter after some actions. -/
def play (i : Interpreter) (actions : List Action) : Interpreter :=
  actions.foldl (fun j action => (j.act action).2) i

/-- The answers of some actions, one after the other. -/
def answers (i : Interpreter) : List Action → List (Except Fault (Option RunState))
  | [] => []
  | action :: actions => (i.act action).1 :: (i.act action).2.answers actions

end Interpreter

/-- Everything that a host can do to an interpreter. -/
inductive Operation where
  | act (action : Action)
  | reset
  | load (program : List UInt8)
  | snapshot
  /-- Comes back to one of the snapshots, counted in the order in which they were taken. -/
  | restore (number : Nat)
  deriving DecidableEq, Repr

/-- An interpreter in use, and the snapshots taken of it, the oldest first. -/
structure Bench where
  interpreter : Interpreter
  snapshots : List Snapshot := []

namespace Bench

/-- A bench with a new interpreter. -/
def fresh (dialect : Dialect) (chance : Nat → UInt8) : Bench where
  interpreter := { dialect := dialect, chance := chance }

/-- The bench with another interpreter. -/
def withInterpreter (b : Bench) (i : Interpreter) : Bench :=
  { b with interpreter := i }

/-- The bench after an operation, whether or not the operation ends in a fault. There is nothing to
restore when there is no snapshot of the number. -/
def apply (b : Bench) : Operation → Bench
  | .act action => b.withInterpreter (b.interpreter.act action).2
  | .reset => b.withInterpreter b.interpreter.reset.interpreter
  | .load program => b.withInterpreter (b.interpreter.load program).interpreter
  | .snapshot => { b with snapshots := b.snapshots ++ [b.interpreter.snapshot] }
  | .restore number =>
    match b.snapshots[number]? with
    | some s => b.withInterpreter (b.interpreter.restore s).interpreter
    | none => b

/-- The bench after some operations. -/
def run (b : Bench) (operations : List Operation) : Bench :=
  operations.foldl apply b

/-- Whether some run leads to a bench from a new interpreter. -/
def Reachable (b : Bench) : Prop :=
  ∃ dialect chance operations, b = (fresh dialect chance).run operations

end Bench

/-! ### Steps in a row -/

namespace Interpreter

/-- What has been gathered before stands in front of the reports and changes nothing else. -/
theorem stepsAfter_eq (past : List Report) (n : Nat) (i : Interpreter) :
    stepsAfter past n i =
      { i.steps n with reports := past.reverse ++ (i.steps n).reports } := by
  induction n generalizing past i with
  | zero => simp [steps, stepsAfter]
  | succ n ih =>
    simp only [steps, stepsAfter]
    cases i.step.answer with
    | error fault => simp
    | ok doing =>
      simp only
      rw [ih (i.step.reports.reverse ++ past), ih (i.step.reports.reverse ++ [])]
      simp

/-- Steps in a row begin with the first one, and end there if it faults. -/
theorem steps_succ (n : Nat) (i : Interpreter) :
    i.steps (n + 1) =
      match i.step.answer with
      | .error fault =>
        { answer := .error fault, interpreter := i.step.interpreter, reports := i.step.reports }
      | .ok _ =>
        { i.step.interpreter.steps n with
          reports := i.step.reports ++ (i.step.interpreter.steps n).reports } := by
  rw [steps, stepsAfter]
  simp only
  cases i.step.answer with
  | error fault => simp
  | ok doing =>
    simp only
    rw [stepsAfter_eq]
    simp

variable {P : Interpreter → Prop}

/-- What every step keeps, steps in a row keep. -/
theorem steps_keep (step : ∀ i, P i → P i.step.interpreter) (n : Nat) (i : Interpreter)
    (holds : P i) : P (i.steps n).interpreter := by
  induction n generalizing i with
  | zero => exact holds
  | succ n ih =>
    have next := step i holds
    rw [steps_succ]
    cases i.step.answer with
    | error fault => exact next
    | ok doing => exact ih _ next

/-- What every step and every tick keeps, frames keep. -/
theorem frame_keeps (step : ∀ i, P i → P i.step.interpreter) (tick : ∀ i, P i → P i.tick)
    (cycles : Int) (i : Interpreter) (holds : P i) : P (i.frame cycles).interpreter := by
  have stepped := steps_keep step cycles.toNat i holds
  rw [frame]
  cases (i.steps cycles.toNat).answer with
  | error fault => exact stepped
  | ok _ => exact tick _ stepped

/-- What every step, every tick and every key keeps, actions keep. -/
theorem act_keeps (step : ∀ i, P i → P i.step.interpreter) (tick : ∀ i, P i → P i.tick)
    (keyDown : ∀ i k, P i → P (i.onMachine fun m => m.keyDown k))
    (keyUp : ∀ i k, P i → P (i.onMachine fun m => m.keyUp k))
    (action : Action) (i : Interpreter) (holds : P i) : P (i.act action).2 := by
  cases action with
  | step => exact step i holds
  | frame cycles => exact frame_keeps step tick cycles i holds
  | tick => exact tick i holds
  | keyDown k => exact keyDown i k holds
  | keyUp k => exact keyUp i k holds

/-! ### Two interpreters in lockstep -/

/-- Whether interpreters in a relation answer a step alike, are in the same run state, and stay in
the relation under every step, tick and key. -/
structure Lockstep (R : Interpreter → Interpreter → Prop) : Prop where
  runState : ∀ {i j}, R i j → j.machine.runState = i.machine.runState
  step : ∀ {i j}, R i j → j.step.answer = i.step.answer ∧ R i.step.interpreter j.step.interpreter
  tick : ∀ {i j}, R i j → R i.tick j.tick
  keyDown : ∀ {i j} (k : Int), R i j →
    R (i.onMachine fun m => m.keyDown k) (j.onMachine fun m => m.keyDown k)
  keyUp : ∀ {i j} (k : Int), R i j →
    R (i.onMachine fun m => m.keyUp k) (j.onMachine fun m => m.keyUp k)

namespace Lockstep

variable {R : Interpreter → Interpreter → Prop} {i j : Interpreter}

/-- Interpreters in lockstep answer steps in a row alike. -/
theorem steps (lock : Lockstep R) (related : R i j) (n : Nat) :
    (j.steps n).answer = (i.steps n).answer ∧ R (i.steps n).interpreter (j.steps n).interpreter := by
  induction n generalizing i j with
  | zero => exact ⟨rfl, related⟩
  | succ n ih =>
    obtain ⟨answer, next⟩ := lock.step related
    rw [steps_succ, steps_succ, answer]
    cases i.step.answer with
    | error fault => exact ⟨rfl, next⟩
    | ok doing => exact ih next

/-- Interpreters in lockstep answer a frame alike. -/
theorem frame (lock : Lockstep R) (related : R i j) (cycles : Int) :
    (j.frame cycles).answer = (i.frame cycles).answer ∧
      R (i.frame cycles).interpreter (j.frame cycles).interpreter := by
  obtain ⟨answer, next⟩ := lock.steps related cycles.toNat
  simp only [Interpreter.frame, answer]
  cases (i.steps cycles.toNat).answer with
  | error fault => exact ⟨rfl, next⟩
  | ok done => exact ⟨congrArg Except.ok (lock.runState (lock.tick next)), lock.tick next⟩

/-- Interpreters in lockstep answer an action alike. -/
theorem act (lock : Lockstep R) (related : R i j) (action : Action) :
    (j.act action).1 = (i.act action).1 ∧ R (i.act action).2 (j.act action).2 := by
  cases action with
  | step =>
    obtain ⟨answer, next⟩ := lock.step related
    exact ⟨congrArg (Except.map some) answer, next⟩
  | frame cycles =>
    obtain ⟨answer, next⟩ := lock.frame related cycles
    exact ⟨congrArg (Except.map some) answer, next⟩
  | tick => exact ⟨rfl, lock.tick related⟩
  | keyDown k => exact ⟨rfl, lock.keyDown k related⟩
  | keyUp k => exact ⟨rfl, lock.keyUp k related⟩

/-- Interpreters in lockstep answer all actions alike. -/
theorem play (lock : Lockstep R) (related : R i j) (actions : List Action) :
    j.answers actions = i.answers actions ∧ R (i.play actions) (j.play actions) := by
  induction actions generalizing i j with
  | nil => exact ⟨rfl, related⟩
  | cons action actions ih =>
    obtain ⟨answer, next⟩ := lock.act related action
    obtain ⟨answers, last⟩ := ih next
    refine ⟨?_, last⟩
    rw [Interpreter.answers, Interpreter.answers, answer, answers]

end Lockstep

end Interpreter

namespace Bench

/-- What holds of every fresh bench and is kept by every operation holds of all reachable ones. -/
theorem Reachable.induction {P : Bench → Prop} {b : Bench} (reached : b.Reachable)
    (fresh : ∀ dialect chance, P (fresh dialect chance))
    (apply : ∀ b operation, P b → P (b.apply operation)) : P b := by
  obtain ⟨dialect, chance, operations, rfl⟩ := reached
  have kept : ∀ (operations : List Operation) (b : Bench), P b → P (b.run operations) := by
    intro operations
    induction operations with
    | nil => exact fun _ holds => holds
    | cons operation rest ih => exact fun b holds => ih _ (apply b operation holds)
  exact kept operations _ (fresh dialect chance)

end Bench

end Chip8
