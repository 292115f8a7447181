import Chip8.Proofs.Run
import Chip8.Proofs.Step

/-!
# The trail of a run

Actions come in two sizes: a frame is many steps. The trail of a run lists the interpreter in front
of every single step, those inside of frames included, so that one can say what was executed so far
at every moment. Main statement: what holds of the steps made so far and the interpreter, and is
kept by every step, tick and key, holds in front of every step of a run and at its end.
-/

namespace Chip8

namespace Interpreter

/-! ### What a step executes -/

/-- The instruction that the next step executes without a fault, if it executes one. -/
def executes (i : Interpreter) : Option Instruction :=
  match i.machine.runState, i.peek with
  | .running, .ok (_, instruction) =>
    match (i.perform instruction).answer with
    | .ok () => some instruction
    | .error _ => none
  | _, _ => none

/-- What a step leaves alone that executes no instruction. -/
structure Still (i next : Interpreter) : Prop where
  memory : next.machine.memory = i.machine.memory
  stack : next.machine.stack = i.machine.stack
  delay : next.machine.delay = i.machine.delay
  sound : next.machine.sound = i.machine.sound
  screen : next.machine.screen = i.machine.screen

/-- A running machine executes the instruction at its program counter if that does not fault. -/
theorem executes_of_execute {i next : Interpreter} {w : Word} {instruction : Instruction}
    (running : i.machine.runState = .running) (seen : i.peek = .ok (w, instruction))
    (ran : i.execute instruction = .ok next) : i.executes = some instruction := by
  simp only [executes, running, seen, perform, Work.carryOut_run, ran, Work.ending]

/-- A machine that is not running executes nothing. -/
theorem executes_of_not_running {i : Interpreter} (idle : i.machine.runState ≠ .running) :
    i.executes = none := by
  rw [executes]
  split
  · rename_i running _
    exact absurd running idle
  · rfl

/-- A machine that is about to stop at a fault executes nothing. -/
theorem executes_of_stepFault {i : Interpreter} {fault : Fault}
    (obstructed : i.stepFault = some fault) : i.executes = none := by
  rw [executes]
  split
  · rename_i instruction _ seen
    rw [stepFault, seen] at obstructed
    have failed : i.execute instruction = .error fault :=
      map_eq_error_iff.mpr ((Machine.execute_eq_error_iff _ _ _ _ _).mpr obstructed)
    simp only [perform, Work.carryOut_run, failed, Work.ending]
  · rfl

/-- A step executes an instruction, or it leaves memory, stack, timers and screen alone. -/
theorem executes_or_still (i : Interpreter) :
    (∃ instruction, i.executes = some instruction ∧
      i.execute instruction = .ok i.step.interpreter) ∨
    (i.executes = none ∧ i.Still i.step.interpreter) := by
  have amounts := i.stepped
  generalize i.step.answer = answer, i.step.interpreter = next at amounts
  cases amounts with
  | again fault halted =>
    have idle : i.machine.runState ≠ .running := by
      rw [halted]
      exact nofun
    exact .inr ⟨executes_of_not_running idle, rfl, rfl, rfl, rfl, rfl⟩
  | idle waiting silent =>
    have idle : i.machine.runState ≠ .running := by
      rw [waiting]
      exact nofun
    exact .inr ⟨executes_of_not_running idle, rfl, rfl, rfl, rfl, rfl⟩
  | woken key waiting struck =>
    have idle : i.machine.runState ≠ .running := by
      rw [waiting]
      exact nofun
    exact .inr ⟨executes_of_not_running idle, rfl, rfl, rfl, rfl, rfl⟩
  | faulted fault running obstructed =>
    exact .inr ⟨executes_of_stepFault obstructed, rfl, rfl, rfl, rfl, rfl⟩
  | executed w instruction next running seen ran =>
    exact .inl ⟨instruction, executes_of_execute running seen ran, ran⟩

/-- The instruction that a step executes makes the interpreter what it is after the step. -/
theorem execute_of_executes {i : Interpreter} {instruction : Instruction}
    (executed : i.executes = some instruction) :
    i.execute instruction = .ok i.step.interpreter := by
  rcases i.executes_or_still with ⟨other, found, ran⟩ | ⟨none, _⟩
  · rw [found] at executed
    cases executed
    exact ran
  · rw [none] at executed
    cases executed

/-- The instruction that a step executes makes the machine what it is after the step. -/
theorem machine_execute_of_executes {i : Interpreter} {instruction : Instruction}
    (executed : i.executes = some instruction) :
    i.machine.execute i.dialect (i.chance i.taken) instruction =
      .ok i.step.interpreter.machine := by
  obtain ⟨machine, done, next⟩ := ok_of_map_ok (execute_of_executes executed)
  rw [← next]
  exact done

/-! ### Trails -/

/-- The interpreters in front of so many steps in a row, as far as the steps go. -/
def stepsTrail : Nat → Interpreter → List Interpreter
  | 0, _ => []
  | n + 1, i =>
    i :: match i.step.answer with
      | .error _ => []
      | .ok _ => stepsTrail n i.step.interpreter

/-- A step that does not fault is followed by the others. -/
theorem stepsTrail_succ {i : Interpreter} {doing : RunState} (n : Nat)
    (ok : i.step.answer = .ok doing) :
    stepsTrail (n + 1) i = i :: stepsTrail n i.step.interpreter := by
  rw [stepsTrail, ok]

/-- The interpreters in front of the steps of an action. -/
def actTrail (i : Interpreter) : Action → List Interpreter
  | .step => [i]
  | .frame cycles => stepsTrail cycles.toNat i
  | .tick | .keyDown _ | .keyUp _ => []

/-- The interpreters in front of all steps of a run. -/
def trail (i : Interpreter) : List Action → List Interpreter
  | [] => []
  | action :: actions => i.actTrail action ++ (i.act action).2.trail actions

end Interpreter

/-! ### What holds along a trail -/

section Along

variable {P : List Interpreter → Interpreter → Prop}

/-- Whether something holds of the steps made so far and the interpreter in front of every step of a
trail that begins after some steps. -/
def Along (P : List Interpreter → Interpreter → Prop) (past trail : List Interpreter) : Prop :=
  ∀ before i after, trail = before ++ i :: after → P (past ++ before) i

/-- Nothing is asked of a trail without steps. -/
theorem along_nil (past : List Interpreter) : Along P past [] := by
  intro before i after parts
  cases before with
  | nil => cases parts
  | cons first rest => cases parts

/-- What holds along a trail holds in front of its first step and along the rest. -/
theorem along_cons_iff {past rest : List Interpreter} {i : Interpreter} :
    Along P past (i :: rest) ↔ P past i ∧ Along P (past ++ [i]) rest := by
  constructor
  · intro along
    refine ⟨?_, ?_⟩
    · have here := along [] i rest rfl
      rwa [List.append_nil] at here
    · rintro before j after rfl
      have later := along (i :: before) j after rfl
      rwa [List.append_cons] at later
  · rintro ⟨here, later⟩ before j after parts
    cases before with
    | nil =>
      cases parts
      rwa [List.append_nil]
    | cons first before =>
      obtain ⟨rfl, tail⟩ := List.cons.inj parts
      rw [List.append_cons]
      exact later before j after tail

/-- What holds along a trail and along its continuation holds along both. -/
theorem Along.append {past first second : List Interpreter} (along : Along P past first)
    (later : Along P (past ++ first) second) : Along P past (first ++ second) := by
  induction first generalizing past with
  | nil => rwa [List.append_nil] at later
  | cons i rest ih =>
    obtain ⟨here, along⟩ := along_cons_iff.mp along
    rw [List.append_cons] at later
    exact along_cons_iff.mpr ⟨here, ih along later⟩

/-- What every step, tick and key keeps of the steps made so far and the interpreter. -/
structure Kept (P : List Interpreter → Interpreter → Prop) : Prop where
  step : ∀ past i, P past i → P (past ++ [i]) i.step.interpreter
  tick : ∀ past i, P past i → P past i.tick
  keyDown : ∀ past i k, P past i → P past (i.onMachine fun m => m.keyDown k)
  keyUp : ∀ past i k, P past i → P past (i.onMachine fun m => m.keyUp k)

namespace Kept

/-- What is kept holds along steps in a row and after them. -/
theorem steps (kept : Kept P) (n : Nat) {past : List Interpreter} {i : Interpreter}
    (holds : P past i) :
    Along P past (Interpreter.stepsTrail n i) ∧
      P (past ++ Interpreter.stepsTrail n i) (i.steps n).interpreter := by
  induction n generalizing past i with
  | zero =>
    rw [Interpreter.stepsTrail, List.append_nil]
    exact ⟨along_nil past, holds⟩
  | succ n ih =>
    have next := kept.step past i holds
    rw [Interpreter.stepsTrail, Interpreter.steps_succ, along_cons_iff]
    cases i.step.answer with
    | error fault => exact ⟨⟨holds, along_nil _⟩, next⟩
    | ok doing =>
      obtain ⟨along, last⟩ := ih next
      rw [← List.append_cons] at last
      exact ⟨⟨holds, along⟩, last⟩

/-- What is kept holds along an action and after it. -/
theorem act (kept : Kept P) (action : Action) {past : List Interpreter} {i : Interpreter}
    (holds : P past i) :
    Along P past (i.actTrail action) ∧ P (past ++ i.actTrail action) (i.act action).2 := by
  have nothing : past ++ [] = past := List.append_nil past
  cases action with
  | step =>
    exact ⟨along_cons_iff.mpr ⟨holds, along_nil _⟩, kept.step past i holds⟩
  | frame cycles =>
    obtain ⟨along, last⟩ := kept.steps cycles.toNat holds
    refine ⟨along, ?_⟩
    simp only [Interpreter.act, Interpreter.frame]
    cases (i.steps cycles.toNat).answer with
    | error fault => exact last
    | ok _ => exact kept.tick _ _ last
  | tick =>
    rw [Interpreter.actTrail, nothing]
    exact ⟨along_nil past, kept.tick past i holds⟩
  | keyDown k =>
    rw [Interpreter.actTrail, nothing]
    exact ⟨along_nil past, kept.keyDown past i k holds⟩
  | keyUp k =>
    rw [Interpreter.actTrail, nothing]
    exact ⟨along_nil past, kept.keyUp past i k holds⟩

/-- What is kept holds in front of every step of a run and at its end. -/
theorem play (kept : Kept P) (actions : List Action) {past : List Interpreter} {i : Interpreter}
    (holds : P past i) :
    Along P past (i.trail actions) ∧ P (past ++ i.trail actions) (i.play actions) := by
  induction actions generalizing past i with
  | nil =>
    rw [Interpreter.trail, List.append_nil]
    exact ⟨along_nil past, holds⟩
  | cons action actions ih =>
    obtain ⟨first, next⟩ := kept.act action holds
    obtain ⟨rest, last⟩ := ih next
    rw [Interpreter.trail, ← List.append_assoc]
    exact ⟨first.append rest, last⟩

end Kept

end Along

end Chip8
