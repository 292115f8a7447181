import Chip8.Proofs.Resume
import Chip8.Proofs.Trail

/-!
# Dialects in a run

Few instructions depend on the dialect, and each of them on a single choice. Main statement: two
runs of one interpreter under two dialects answer alike and stay the same in front of every step,
until an instruction is executed whose choice the dialects make differently. A fault of such an
instruction is the same in all dialects, so it does not part the runs.
-/

namespace Chip8

/-! ### The choices of instructions -/

/-- The choice of the dialect that an instruction depends on, if it depends on one. A shift of a
register into itself and a jump whose address names `V0` come to the same either way. -/
def Instruction.choice : Instruction → Option (Dialect → Bool)
  | .alu .or _ _ | .alu .and _ _ | .alu .xor _ _ => some Dialect.bitwiseClearsFlag
  | .alu .shiftRight x y | .alu .shiftLeft x y =>
    if x = y then none else some Dialect.shiftsSecond
  | .storeRegisters _ | .loadRegisters _ => some Dialect.blockMovesIndex
  | .jumpOffset base => if base.val / 256 = 0 then none else some Dialect.jumpsByNamed
  | .addIndex _ => some Dialect.indexSetsFlag
  | _ => none

/-- Whether an instruction depends on a choice that two dialects make differently. -/
def Instruction.tellsApart (d e : Dialect) (instruction : Instruction) : Bool :=
  instruction.choice.any fun choice => choice d != choice e

/-- Dialects that an instruction does not tell apart make its choice alike. -/
theorem Instruction.choice_eq {instruction : Instruction} {d e : Dialect}
    (same : instruction.tellsApart d e = false) {choice : Dialect → Bool}
    (depends : instruction.choice = some choice) : choice e = choice d := by
  rw [tellsApart, depends, Option.any_some, bne_eq_false_iff_eq] at same
  exact same.symm

/-- An instruction that depends on no choice tells no dialects apart. -/
theorem Instruction.tellsApart_of_choice_eq_none {instruction : Instruction}
    (free : instruction.choice = none) (d e : Dialect) : instruction.tellsApart d e = false := by
  rw [tellsApart, free, Option.any_none]

/-- Dialects that agree on the byte that shifts take, or need not choose since there is one register
only, shift the same byte. -/
theorem AluOp.shiftSource_eq {x y : Register} {d e : Dialect}
    (same : x ≠ y → e.shiftsSecond = d.shiftsSecond) (r : Registers) :
    shiftSource e (r.get x) (r.get y) = shiftSource d (r.get x) (r.get y) := by
  by_cases one : x = y
  · subst one
    have either : ∀ dialect, shiftSource dialect (r.get x) (r.get x) = r.get x :=
      fun _ => ite_self _
    rw [either, either]
  · rw [shiftSource, shiftSource, same one]

/-- Dialects that an operation does not tell apart yield the same result for its registers. -/
theorem AluOp.result_eq {op : AluOp} {x y : Register} {d e : Dialect}
    (same : (Instruction.alu op x y).tellsApart d e = false) (r : Registers) :
    op.result e (r.get x) (r.get y) = op.result d (r.get x) (r.get y) := by
  cases op with
  | or =>
    have clears : e.bitwiseClearsFlag = d.bitwiseClearsFlag := Instruction.choice_eq same rfl
    simp only [result, bitwiseFlag, clears]
  | and =>
    have clears : e.bitwiseClearsFlag = d.bitwiseClearsFlag := Instruction.choice_eq same rfl
    simp only [result, bitwiseFlag, clears]
  | xor =>
    have clears : e.bitwiseClearsFlag = d.bitwiseClearsFlag := Instruction.choice_eq same rfl
    simp only [result, bitwiseFlag, clears]
  | shiftRight =>
    have source := shiftSource_eq (fun other => Instruction.choice_eq same (if_neg other)) r
    simp only [result, source]
  | shiftLeft =>
    have source := shiftSource_eq (fun other => Instruction.choice_eq same (if_neg other)) r
    simp only [result, source]
  | _ => rfl

/-- Dialects that a jump by an offset does not tell apart lead to the same address. -/
theorem Machine.offsetTarget_eq {base : Address} {d e : Dialect}
    (same : (Instruction.jumpOffset base).tellsApart d e = false) (m : Machine) :
    m.offsetTarget e base = m.offsetTarget d base := by
  by_cases zero : base.val / 256 = 0
  · -- The register that the address names is `V0`, which the other choice takes as well.
    have named : Nibble.ofNat (base.val / 256) = Nibble.zero := by
      rw [zero]
      rfl
    simp only [offsetTarget, named, ite_self]
  · have jumps : e.jumpsByNamed = d.jumpsByNamed := Instruction.choice_eq same (if_neg zero)
    simp only [offsetTarget, jumps]

/-- Dialects that an instruction does not tell apart execute it alike. -/
theorem Machine.execute_eq {instruction : Instruction} {d e : Dialect}
    (same : instruction.tellsApart d e = false) (m : Machine) (chance : UInt8) :
    m.execute e chance instruction = m.execute d chance instruction := by
  cases instruction with
  | alu op x y =>
    simp only [execute, Registers.operate, AluOp.result_eq same]
  | jumpOffset base =>
    simp only [execute, offsetTarget_eq same]
  | addIndex x =>
    have sets : e.indexSetsFlag = d.indexSetsFlag := Instruction.choice_eq same rfl
    simp only [execute, addIndex, sets]
  | storeRegisters x =>
    have moves : e.blockMovesIndex = d.blockMovesIndex := Instruction.choice_eq same rfl
    simp only [execute, passBlock, moves]
  | loadRegisters x =>
    have moves : e.blockMovesIndex = d.blockMovesIndex := Instruction.choice_eq same rfl
    simp only [execute, passBlock, moves]
  | _ => rfl

/-! ### One interpreter under two dialects -/

/-- The interpreter under another dialect. -/
def Interpreter.withDialect (i : Interpreter) (d : Dialect) : Interpreter :=
  { i with dialect := d }

/-- The outcome with the interpreter afterwards under another dialect. -/
def Outcome.withDialect {ε α : Type} (o : Outcome ε α) (d : Dialect) : Outcome ε α :=
  { o with interpreter := o.interpreter.withDialect d }

namespace Outcome

variable {ε α : Type} (o : Outcome ε α) (d : Dialect)

@[simp] theorem answer_withDialect : (o.withDialect d).answer = o.answer := rfl

@[simp] theorem interpreter_withDialect :
    (o.withDialect d).interpreter = o.interpreter.withDialect d := rfl

@[simp] theorem reports_withDialect : (o.withDialect d).reports = o.reports := rfl

end Outcome

namespace Interpreter

/-- Whether the next step executes an instruction that tells two dialects apart. -/
def tellsApart (d e : Dialect) (i : Interpreter) : Bool :=
  i.executes.any (Instruction.tellsApart d e)

variable {d e : Dialect} {i : Interpreter}

/-- An instruction under another dialect comes to the same, unless it is executed and tells the
dialects apart. -/
theorem execute_withDialect (speaks : i.dialect = d) {instruction : Instruction}
    (same : ∀ next, i.execute instruction = .ok next → instruction.tellsApart d e = false) :
    (i.withDialect e).execute instruction =
      (i.execute instruction).map fun next => next.withDialect e := by
  cases ran : i.execute instruction with
  | error fault =>
    -- What stands in the way of an instruction does so in every dialect.
    have obstacle : i.machine.obstacle instruction = some fault :=
      (Machine.execute_eq_error_iff _ _ _ _ _).mp (map_eq_error_iff.mp ran)
    exact map_eq_error_iff.mpr ((Machine.execute_eq_error_iff _ _ _ _ _).mpr obstacle)
  | ok next =>
    obtain ⟨machine, done, rfl⟩ := ok_of_map_ok ran
    rw [speaks] at done
    have alike := Machine.execute_eq (same _ ran) i.machine (i.chance i.taken)
    have again : (i.withDialect e).machine.execute (i.withDialect e).dialect
        ((i.withDialect e).chance (i.withDialect e).taken) instruction = .ok machine :=
      alike.trans done
    rw [execute, again]
    rfl

/-- A step under another dialect comes to the same, unless it executes an instruction that tells the
dialects apart. -/
theorem step_withDialect (speaks : i.dialect = d) (same : i.tellsApart d e = false) :
    (i.withDialect e).step = i.step.withDialect e := by
  have doing : (i.withDialect e).machine.runState = i.machine.runState := rfl
  have seeing : (i.withDialect e).peek = i.peek := rfl
  cases state : i.machine.runState with
  | halted fault =>
    simp only [step, doing, state]
    rfl
  | awaitingKey =>
    simp only [step, state, stepAwaitingKey, withDialect]
    cases i.machine.keypad.newlyPressed with
    | none => rfl
    | some key => rfl
  | running =>
    simp only [step, doing, state, stepRunning, seeing]
    cases seen : i.peek with
    | error fault => rfl
    | ok pair =>
      obtain ⟨w, instruction⟩ := pair
      have unaffected : ∀ next, i.execute instruction = .ok next →
          instruction.tellsApart d e = false := by
        intro next ran
        rwa [tellsApart, executes_of_execute state seen ran, Option.any_some] at same
      simp only [Work.carryOut_run, execute_withDialect speaks unaffected]
      cases i.execute instruction with
      | error fault => rfl
      | ok next => rfl

/-- A step keeps the dialect. -/
theorem dialect_step (speaks : i.dialect = d) : i.step.interpreter.dialect = d :=
  i.sameOrigin_step.1.trans speaks

/-- Steps in a row under another dialect come to the same, unless one of them executes an
instruction that tells the dialects apart. -/
theorem steps_withDialect (speaks : i.dialect = d) (n : Nat)
    (same : ∀ j ∈ stepsTrail n i, j.tellsApart d e = false) :
    (i.withDialect e).steps n = (i.steps n).withDialect e := by
  induction n generalizing i with
  | zero => rfl
  | succ n ih =>
    have first : (i.withDialect e).step = i.step.withDialect e :=
      step_withDialect speaks (same i List.mem_cons_self)
    rw [steps_succ, steps_succ, first, Outcome.answer_withDialect, Outcome.reports_withDialect,
      Outcome.interpreter_withDialect]
    cases ended : i.step.answer with
    | error fault => rfl
    | ok doing =>
      have rest : ∀ j ∈ stepsTrail n i.step.interpreter, j.tellsApart d e = false := by
        intro j member
        apply same
        rw [stepsTrail_succ n ended]
        exact List.mem_cons_of_mem _ member
      simp only [ih (dialect_step speaks) rest]
      rfl

/-- An action under another dialect comes to the same, unless one of its steps executes an
instruction that tells the dialects apart. -/
theorem act_withDialect (speaks : i.dialect = d) (action : Action)
    (same : ∀ j ∈ i.actTrail action, j.tellsApart d e = false) :
    (i.withDialect e).act action = ((i.act action).1, (i.act action).2.withDialect e) := by
  cases action with
  | step =>
    simp only [act, step_withDialect speaks (same i List.mem_cons_self)]
    rfl
  | frame cycles =>
    simp only [act, frame, steps_withDialect speaks cycles.toNat same, Outcome.withDialect]
    cases (i.steps cycles.toNat).answer with
    | error fault => rfl
    | ok done => rfl
  | tick => rfl
  | keyDown k => rfl
  | keyUp k => rfl

/-- An action keeps the dialect. -/
theorem dialect_act (speaks : i.dialect = d) (action : Action) : (i.act action).2.dialect = d :=
  (i.sameOrigin_act action).1.trans speaks

/-- A run under another dialect comes to the same, unless one of its steps executes an instruction
that tells the dialects apart. -/
theorem play_withDialect (speaks : i.dialect = d) (actions : List Action)
    (same : ∀ j ∈ i.trail actions, j.tellsApart d e = false) :
    (i.withDialect e).answers actions = i.answers actions ∧
      (i.withDialect e).play actions = (i.play actions).withDialect e := by
  induction actions generalizing i with
  | nil => exact ⟨rfl, rfl⟩
  | cons action actions ih =>
    rw [trail] at same
    have first : (i.withDialect e).act action =
        ((i.act action).1, (i.act action).2.withDialect e) :=
      act_withDialect speaks action fun j member => same j (List.mem_append_left _ member)
    obtain ⟨answers, last⟩ := ih (dialect_act speaks action) fun j member =>
      same j (List.mem_append_right _ member)
    constructor
    · rw [Interpreter.answers, Interpreter.answers, first, answers]
    · change ((i.withDialect e).act action).2.play actions = _
      rw [first]
      exact last

/-! ### Until the runs part -/

/-- Whether two trails go side by side: they are the same but for the dialect as far as no step
executes an instruction that tells the dialects apart, and the first such step is in both. -/
inductive Abreast (d e : Dialect) : List Interpreter → List Interpreter → Prop
  | done : Abreast d e [] []
  | parting (i : Interpreter) (rest others : List Interpreter)
      (apart : i.tellsApart d e = true) : Abreast d e (i :: rest) (i.withDialect e :: others)
  | next (i : Interpreter) {rest others : List Interpreter}
      (same : i.tellsApart d e = false) (later : Abreast d e rest others) :
      Abreast d e (i :: rest) (i.withDialect e :: others)

/-- Trails go on side by side if their continuations do, which counts only if the runs have not
parted before. -/
theorem Abreast.append {first second later others : List Interpreter}
    (abreast : Abreast d e first second)
    (follow : (∀ j ∈ first, j.tellsApart d e = false) → Abreast d e later others) :
    Abreast d e (first ++ later) (second ++ others) := by
  induction abreast with
  | done => exact follow (List.forall_mem_nil _)
  | parting i rest seconds apart => exact .parting i _ _ apart
  | next i same _ ih =>
    exact .next i same (ih fun rest => follow (List.forall_mem_cons.mpr ⟨same, rest⟩))

/-- As long as none of so many steps tells the dialects apart, trails that go side by side are the
same, the step behind them included. -/
theorem Abreast.take_eq {first second : List Interpreter} (abreast : Abreast d e first second)
    (n : Nat) (same : ∀ j ∈ first.take n, j.tellsApart d e = false) :
    second.take (n + 1) = (first.take (n + 1)).map fun j => j.withDialect e := by
  induction abreast generalizing n with
  | done => rfl
  | parting i rest others apart =>
    cases n with
    | zero => rfl
    | succ n =>
      have together := same i List.mem_cons_self
      rw [apart] at together
      cases together
  | next i together later ih =>
    cases n with
    | zero => rfl
    | succ n =>
      have rest := ih n fun j member => same j (List.mem_cons_of_mem _ member)
      rw [List.take_succ_cons, rest]
      rfl

/-- Steps in a row go side by side under two dialects. -/
theorem stepsTrail_abreast (speaks : i.dialect = d) (n : Nat) :
    Abreast d e (stepsTrail n i) (stepsTrail n (i.withDialect e)) := by
  induction n generalizing i with
  | zero => exact .done
  | succ n ih =>
    cases apart : i.tellsApart d e with
    | true => exact .parting i _ _ apart
    | false =>
      have same : (i.withDialect e).step = i.step.withDialect e := step_withDialect speaks apart
      rw [stepsTrail, stepsTrail, same, Outcome.answer_withDialect,
        Outcome.interpreter_withDialect]
      refine .next i apart ?_
      cases i.step.answer with
      | error fault => exact .done
      | ok doing => exact ih (dialect_step speaks)

/-- Actions go side by side under two dialects. -/
theorem actTrail_abreast (speaks : i.dialect = d) (action : Action) :
    Abreast d e (i.actTrail action) ((i.withDialect e).actTrail action) := by
  cases action with
  | step =>
    cases apart : i.tellsApart d e with
    | true => exact .parting i _ _ apart
    | false => exact .next i apart .done
  | frame cycles => exact stepsTrail_abreast speaks cycles.toNat
  | _ => exact .done

/-- Runs go side by side under two dialects. -/
theorem trail_abreast (speaks : i.dialect = d) (actions : List Action) :
    Abreast d e (i.trail actions) ((i.withDialect e).trail actions) := by
  induction actions generalizing i with
  | nil => exact .done
  | cons action actions ih =>
    refine (actTrail_abreast speaks action).append fun same => ?_
    rw [act_withDialect speaks action same]
    exact ih (dialect_act speaks action)

/-- Run one interpreter under two dialects, with the same actions and random bytes. As long as none
of the first steps executes an instruction that tells the dialects apart, those steps and the one
behind them begin in the same state; and the actions that are over by then have answered alike and
led to the same state. So a run that executes no instruction that depends on a choice is the same
in every dialect. -/
theorem runs_agree_until_told_apart (i : Interpreter) (d : Dialect) (actions : List Action) :
    (∀ e,
      (∀ n, (∀ j ∈ ((i.withDialect d).trail actions).take n, j.tellsApart d e = false) →
        ((i.withDialect e).trail actions).take (n + 1) =
          (((i.withDialect d).trail actions).take (n + 1)).map fun j => j.withDialect e) ∧
      (∀ first, first <+: actions →
        (∀ j ∈ (i.withDialect d).trail first, j.tellsApart d e = false) →
        (i.withDialect e).answers first = (i.withDialect d).answers first ∧
          (i.withDialect e).play first = ((i.withDialect d).play first).withDialect e)) ∧
    ((∀ j ∈ (i.withDialect d).trail actions, ∀ instruction,
        j.executes = some instruction → instruction.choice = none) →
      ∀ e, (i.withDialect e).answers actions = (i.withDialect d).answers actions ∧
        (i.withDialect e).play actions = ((i.withDialect d).play actions).withDialect e) := by
  have speaks : (i.withDialect d).dialect = d := rfl
  refine ⟨fun e => ⟨fun n same => ?_, fun first _ same => ?_⟩, fun free e => ?_⟩
  · exact (trail_abreast speaks actions).take_eq n same
  · exact play_withDialect speaks first same
  · refine play_withDialect speaks actions fun j member => ?_
    rw [tellsApart, Option.any_eq_false_iff_get]
    intro executed
    exact Instruction.tellsApart_of_choice_eq_none
      (free j member _ (Option.some_get executed).symm) d e

/-- A register is loaded, then shifted into itself, then shifted into another one. Only the last of
these three steps tells the dialects apart, and behind it the runs differ. -/
theorem runs_agree_until_shift :
    let i := (({} : Interpreter).load [0x61, 0x05, 0x81, 0x1E, 0x82, 0x16]).interpreter
    let first := i.withDialect .classic
    let second := i.withDialect .modern
    (second.trail [.frame 2, .step]).take 3 =
        ((first.trail [.frame 2, .step]).take 3).map (fun j => j.withDialect .modern) ∧
      second.answers [.frame 2] = first.answers [.frame 2] ∧
      (first.play [.frame 2, .step]).machine.registers.get 2 = 5 ∧
      (second.play [.frame 2, .step]).machine.registers.get 2 = 0 := by
  intro i first second
  have evaluated : first.step.answer = .ok .running ∧
      first.step.interpreter.step.answer = .ok .running ∧
      first.tellsApart .classic .modern = false ∧
      first.step.interpreter.tellsApart .classic .modern = false ∧
      (first.play [.frame 2, .step]).machine.registers.get 2 = 5 ∧
      (second.play [.frame 2, .step]).machine.registers.get 2 = 0 := by decide +kernel
  obtain ⟨one, two, same, still, classic, modern⟩ := evaluated
  have frame : stepsTrail 2 first = [first, first.step.interpreter] := by
    rw [stepsTrail_succ 1 one, stepsTrail_succ 0 two, stepsTrail]
  have together : ∀ j ∈ stepsTrail 2 first, j.tellsApart .classic .modern = false := by
    rw [frame, List.forall_mem_cons, List.forall_mem_singleton]
    exact ⟨same, still⟩
  have beginning : [Action.frame 2] <+: [.frame 2, .step] := ⟨[.step], rfl⟩
  have agree := (runs_agree_until_told_apart i .classic [.frame 2, .step]).1 .modern
  have opening : (first.trail [.frame 2, .step]).take 2 = stepsTrail 2 first := by
    have parts : first.trail [.frame 2, .step] =
      stepsTrail 2 first ++ (first.act (.frame 2)).2.trail [.step] := rfl
    rw [parts, frame]
    rfl
  have states := agree.1 2 (by rwa [← opening] at together)
  have answers := (agree.2 _ beginning (by rwa [trail, trail, List.append_nil])).1
  exact ⟨states, answers, classic, modern⟩

end Interpreter

end Chip8
