import Chip8.Proofs.Captions
import Chip8.Proofs.Trail

/-!
# How faults are reported

A frame of the machine is so many steps and a tick, or ends at the first step that faults. What the
host tells then are three things: that the machine halted and where, the caption, and that it
crashed. Main statement: each update of a run tells them all, in this order, if its frame faults,
none of them if it does not, and does nothing at all in a pause or when the machine is halted; so
over a whole run there are as many reports of a crash as steps that halted the machine.
-/

namespace Chip8

/-- Whether a report is about an error. -/
def Report.isAlarm (r : Report) : Bool :=
  r.level = .error

/-- The reports about errors among others. -/
def alarms (reports : List Report) : List Report :=
  reports.filter Report.isAlarm

namespace Effect

/-- Whether an effect is a report about an error or a caption. -/
def isNotice : Effect → Bool
  | .report r => r.isAlarm
  | .caption _ => true
  | _ => false

/-- Whether an effect is the report that the host saw the machine stop. -/
def isCrash : Effect → Bool
  | .report (.crashed _) => true
  | _ => false

/-- The report of a crash is about an error. -/
theorem isNotice_of_isCrash {effect : Effect} (crash : effect.isCrash = true) :
    effect.isNotice = true := by
  cases effect with
  | report r =>
    cases r with
    | crashed status => rfl
    | _ => cases crash
  | _ => cases crash

end Effect

/-- The reports about errors and the captions among effects. -/
def notices (effects : List Effect) : List Effect :=
  effects.filter Effect.isNotice

/-- Notices come in the order of the effects. -/
theorem notices_append (first second : List Effect) :
    notices (first ++ second) = notices first ++ notices second :=
  List.filter_append ..

/-- What reports tell of errors. -/
theorem notices_reported (reports : List Report) :
    notices (Host.reported reports) = Host.reported (alarms reports) := by
  rw [notices, Host.reported, List.filter_map]
  rfl

/-- The beeper reports no error and sets no caption. -/
theorem notices_beeper (b : Beeper) (active : Bool) : notices (b.update active).2 = [] := by
  rw [Beeper.update]
  split
  · rfl
  · rfl

/-- The crashes among effects are among the errors. -/
theorem countP_isCrash_notices (effects : List Effect) :
    (notices effects).countP Effect.isCrash = effects.countP Effect.isCrash := by
  rw [notices, List.countP_filter]
  apply List.countP_congr
  intro effect _
  rw [Bool.and_eq_true]
  exact ⟨And.left, fun crash => ⟨crash, Effect.isNotice_of_isCrash crash⟩⟩

namespace Interpreter

/-! ### Steps -/

/-- The interpreter behind so many steps. -/
def behind : Nat → Interpreter → Interpreter
  | 0, i => i
  | n + 1, i => behind n i.step.interpreter

/-- Whether a step does not fault. -/
def Succeeds (i : Interpreter) : Prop :=
  ∃ doing, i.step.answer = .ok doing

/-- Whether the next step halts the machine. -/
def halts (i : Interpreter) : Bool :=
  !i.machine.isHalted && i.step.interpreter.machine.isHalted

/-- What an instruction reports when it is executed is no error. -/
theorem alarms_executing (pc : UInt16) (w : Word) (instruction : Instruction) :
    alarms (.executing pc w instruction :: instruction.reports) = [] := by
  cases instruction with
  | _ => rfl

/-- A step reports an error exactly when it faults, and then where the instruction stands. -/
theorem alarms_step {i : Interpreter} (going : i.machine.isHalted = false) :
    alarms i.step.reports =
      match i.step.answer with
      | .ok _ => []
      | .error fault => [.halted i.machine.registers.pc fault] := by
  cases doing : i.machine.runState with
  | halted fault =>
    exact absurd doing (Machine.isHalted_eq_false_iff.mp going fault)
  | awaitingKey =>
    simp only [step, doing, stepAwaitingKey]
    cases i.machine.keypad.newlyPressed with
    | none => rfl
    | some key => rfl
  | running =>
    simp only [step, doing, stepRunning]
    cases i.peek with
    | error fault => rfl
    | ok pair =>
      obtain ⟨w, instruction⟩ := pair
      cases ran : (Work.carryOut instruction).run i with
      | error fault left =>
        simp only [ran]
        rfl
      | ok _ next =>
        simp only [ran]
        exact alarms_executing _ w instruction

/-- What so many steps in a row come to: their answer, the interpreter behind them, and the errors
reported. -/
inductive Row (i : Interpreter) (n : Nat) : Except Fault Unit → Interpreter → List Report → Prop
  /-- None of them faults. -/
  | whole (succeed : ∀ k < n, (i.behind k).Succeeds) : Row i n (.ok ()) (i.behind n) []
  /-- One of them faults, and none before it. -/
  | broken {fault : Fault} (k : Nat) (within : k < n) (succeed : ∀ j < k, (i.behind j).Succeeds)
      (faulted : (i.behind k).step.answer = .error fault) :
      Row i n (.error fault) (i.behind (k + 1)) [.halted (i.behind k).machine.registers.pc fault]

namespace Row

variable {i : Interpreter} {n : Nat} {answer : Except Fault Unit} {left : Interpreter}
  {told : List Report}

/-- A step that does not fault goes in front of a row. -/
theorem cons (first : i.Succeeds) (row : Row i.step.interpreter n answer left told) :
    Row i (n + 1) answer left told := by
  have rest : ∀ {k}, (∀ j < k, (i.step.interpreter.behind j).Succeeds) →
      ∀ j < k + 1, (i.behind j).Succeeds := by
    intro k succeed j within
    cases j with
    | zero => exact first
    | succ j => exact succeed j (Nat.lt_of_succ_lt_succ within)
  cases row with
  | whole succeed => exact .whole (rest succeed)
  | broken k within succeed faulted =>
    exact .broken (k + 1) (Nat.succ_lt_succ within) (rest succeed) faulted

end Row

/-- What steps in a row come to when the machine was not halted before. -/
theorem row_steps {i : Interpreter} (going : i.machine.isHalted = false) (n : Nat) :
    Row i n (i.steps n).answer (i.steps n).interpreter (alarms (i.steps n).reports) := by
  induction n generalizing i with
  | zero => exact .whole nofun
  | succ n ih =>
    have told := alarms_step going
    have tells := tells_step going
    rw [steps_succ]
    cases answer : i.step.answer with
    | error fault =>
      rw [answer] at told
      simp only [told]
      exact .broken 0 (Nat.succ_pos n) nofun answer
    | ok doing =>
      rw [answer] at told
      -- A step that does not fault reports no error, so the errors are those of the rest.
      have reports : alarms (i.step.reports ++ (i.step.interpreter.steps n).reports) =
          alarms (i.step.interpreter.steps n).reports := by
        rw [alarms, List.filter_append]
        exact congrArg (· ++ _) told
      simp only [reports]
      exact .cons ⟨doing, answer⟩ (ih (tells.going doing answer))

/-- Of the steps of a row the one that faults halts the machine. -/
theorem countP_halts {i : Interpreter} (going : i.machine.isHalted = false) (n : Nat) :
    (stepsTrail n i).countP halts =
      match (i.steps n).answer with
      | .ok _ => 0
      | .error _ => 1 := by
  induction n generalizing i with
  | zero => rfl
  | succ n ih =>
    have tells := tells_step going
    rw [steps_succ, stepsTrail]
    cases answer : i.step.answer with
    | error fault =>
      have halted := Machine.isHalted_of_runState (tells.runState fault answer)
      have halting : i.halts = true := by rw [halts, going, halted]; rfl
      exact List.countP_cons_of_pos halting
    | ok doing =>
      have on := tells.going doing answer
      have staying : ¬i.halts = true := by simp [halts, on]
      rw [List.countP_cons_of_neg staying]
      exact ih on

end Interpreter

namespace Host

/-! ### Updates -/

/-- What the update of a host comes to that is not paused and whose machine is not halted. -/
inductive Framed (h : Host) (turn : Turn) : Prop
  /-- All steps of the frame are made, and a tick. Nothing is told. -/
  | whole (succeed : ∀ k < h.config.cyclesPerFrame.toNat, (h.interpreter.behind k).Succeeds)
      (left : turn.host.interpreter =
        (h.interpreter.behind h.config.cyclesPerFrame.toNat).tick)
      (silent : notices turn.effects = [])
  /-- Steps are made up to the first that faults, and no tick. The fault is told three times. -/
  | broken (fault : Fault) (k : Nat) (within : k < h.config.cyclesPerFrame.toNat)
      (succeed : ∀ j < k, (h.interpreter.behind j).Succeeds)
      (faulted : (h.interpreter.behind k).step.answer = .error fault)
      (left : turn.host.interpreter = h.interpreter.behind (k + 1))
      (told : notices turn.effects = [
        .report (.halted (h.interpreter.behind k).machine.registers.pc fault),
        .caption s!"{h.title} [Halted: {fault.message}]",
        .report (.crashed turn.host.interpreter.machine.status)])

/-- Making the tone play or not tells nothing. -/
theorem notices_beep (h : Host) (active : Bool) : notices (h.beep active).effects = [] :=
  notices_beeper h.beeper active

/-- A host that is neither paused nor halted. -/
theorem busy_of_going {h : Host} (going : h.paused = false) (running : h.halted = false) :
    ¬(h.paused || h.halted) = true := by
  rw [going, running]
  decide

/-- The update of a host that is not paused and whose machine is not halted makes the steps of a
frame. If they end in a fault it makes no tick, and tells the fault. -/
theorem update_of_steps {h : Host} (going : h.paused = false) (running : h.halted = false) :
    let o := h.interpreter.steps h.config.cyclesPerFrame.toNat
    h.update.host.interpreter =
      (match o.answer with
      | .ok _ => o.interpreter.tick
      | .error _ => o.interpreter) ∧
    notices h.update.effects = reported (alarms o.reports) ++
      match o.answer with
      | .ok _ => []
      | .error fault => [.caption s!"{h.title} [Halted: {fault.message}]",
        .report (.crashed h.update.host.interpreter.machine.status)] := by
  have busy : ¬(h.paused || h.interpreter.machine.isHalted) = true := busy_of_going going running
  intro o
  cases ended : o.answer with
  | ok done =>
    have frame : h.interpreter.frame h.config.cyclesPerFrame = {
        answer := .ok o.interpreter.tick.machine.runState
        interpreter := o.interpreter.tick
        reports := o.reports } := by
      rw [Interpreter.frame, ended]
    rw [update, if_neg busy, frame]
    refine ⟨rfl, ?_⟩
    simp only [notices_append, notices_reported, notices_beep, List.append_nil]
  | error fault =>
    have frame : h.interpreter.frame h.config.cyclesPerFrame = {
        answer := .error fault
        interpreter := o.interpreter
        reports := o.reports } := by
      rw [Interpreter.frame, ended]
    rw [update, if_neg busy, frame]
    refine ⟨rfl, ?_⟩
    simp only [notices_append, notices_reported, notices_beep, reportCrash, setCaption_halted,
      List.append_nil]
    rfl

/-- The update of a host that is not paused and whose machine is not halted. -/
theorem framed_update {h : Host} (going : h.paused = false) (running : h.halted = false) :
    h.Framed h.update := by
  have row := Interpreter.row_steps running h.config.cyclesPerFrame.toNat
  obtain ⟨left, told⟩ := update_of_steps going running
  generalize (h.interpreter.steps h.config.cyclesPerFrame.toNat).answer = answer,
    (h.interpreter.steps h.config.cyclesPerFrame.toNat).interpreter = last,
    alarms (h.interpreter.steps h.config.cyclesPerFrame.toNat).reports = errors at row left told
  cases row with
  | whole succeed => exact .whole succeed left told
  | broken k within succeed faulted => exact .broken _ k within succeed faulted left told

/-! ### Crashes -/

/-- The interpreters in front of the steps that are made when something happens. -/
def stepsAt (h : Host) : Happening → List Interpreter
  | .update =>
    if h.paused || h.halted then []
    else Interpreter.stepsTrail h.config.cyclesPerFrame.toNat h.interpreter
  | _ => []

/-- The interpreters in front of all steps that were made in what happened. -/
def stepsOf (past : List (Host × Happening)) : List Interpreter :=
  past.flatMap fun p => p.1.stepsAt p.2

/-- Setting the caption is no crash. -/
theorem countP_isCrash_setCaption (h : Host) (remark : String) :
    [h.setCaption remark].countP Effect.isCrash = 0 := rfl

/-- Loading a program is no crash, whether or not there is one. -/
theorem countP_isCrash_load (h : Host) (files : Files) (path : Path) :
    (h.load files path).effects.countP Effect.isCrash = 0 := by
  cases read : files.read path with
  | error error =>
    rw [h.load_of_unreadable read]
    rfl
  | ok bytes =>
    have found := Files.leadsTo_of_read read
    by_cases fits : bytes.length ≤ Memory.programLimit
    · rw [h.load_of_offers ⟨found, fits⟩]
      rfl
    · rw [h.load_of_too_large found (Nat.lt_of_not_le fits)]
      rfl

/-- What happens tells as many crashes as it makes steps that halt the machine. -/
theorem countP_isCrash_meet (h : Host) (x : Happening) :
    (h.meet x).effects.countP Effect.isCrash = (h.stepsAt x).countP Interpreter.halts := by
  cases x with
  | load files path => exact h.countP_isCrash_load files path
  | render => rfl
  | update =>
    change h.update.effects.countP Effect.isCrash = _
    by_cases idle : h.paused = true ∨ h.halted = true
    · rw [update_of_idle idle, stepsAt, if_pos (Bool.or_eq_true_iff.mpr idle)]
      rfl
    · obtain ⟨going, running⟩ := not_or.mp idle
      rw [Bool.not_eq_true] at going running
      have row := Interpreter.row_steps running h.config.cyclesPerFrame.toNat
      obtain ⟨-, told⟩ := update_of_steps going running
      rw [stepsAt, if_neg (busy_of_going going running), Interpreter.countP_halts running,
        ← countP_isCrash_notices, told]
      generalize (h.interpreter.steps h.config.cyclesPerFrame.toNat).answer = answer,
        (h.interpreter.steps h.config.cyclesPerFrame.toNat).interpreter = last,
        alarms (h.interpreter.steps h.config.cyclesPerFrame.toNat).reports = errors at row ⊢
      cases row with
      | whole succeed => rfl
      | broken k within succeed faulted => rfl
  | event files event =>
    have happened := h.happened (.event files event)
    generalize made : h.meet (.event files event) = turn at happened
    change turn.effects.countP Effect.isCrash = 0
    cases happened with
    | loaded asked offered =>
      rw [← made, asked.meet]
      exact h.countP_isCrash_load _ _
    | refused asked error reports =>
      rw [← made, asked.meet]
      exact h.countP_isCrash_load _ _
    | paused asked going =>
      rw [List.countP_append, ← countP_isCrash_notices, notices_beeper]
      exact countP_isCrash_setCaption h "Paused"
    | restored asked saved =>
      rw [List.countP_append, countP_isCrash_setCaption]
      rfl
    | resumed asked stopped => exact countP_isCrash_setCaption h ""
    | _ => rfl

/-- A run tells as many crashes as it makes steps that halt the machine. -/
theorem countP_isCrash_effects (h : Host) (calls : List HostCall) :
    (h.effects calls).countP Effect.isCrash =
      (stepsOf (h.trail calls)).countP Interpreter.halts := by
  rw [effects_eq]
  generalize h.trail calls = past
  induction past with
  | nil => rfl
  | cons p past ih =>
    rw [effectsOf, stepsOf, List.flatMap_cons, List.flatMap_cons, List.countP_append,
      List.countP_append, countP_isCrash_meet]
    exact congrArg _ ih

/-- Starting a host is no crash. -/
theorem countP_isCrash_start {config : Config} {chance : Nat → UInt8} {device : Except String Unit}
    {t : Turn} (started : start config chance device = .ok t) :
    t.effects.countP Effect.isCrash = 0 := by
  obtain ⟨-, none | ⟨reason, silent⟩⟩ := start_quiet started
  · rw [none]
    rfl
  · rw [silent]
    rfl

/-- Every fault is told once. After whatever calls, an update does nothing at all in a pause or when
the machine is halted. Otherwise it makes all steps of a frame and a tick, and tells nothing, or it
makes the steps up to the first that faults, and tells where that was, the caption and the crash. So
there are as many crashes in a run as steps that halted the machine, whatever else came in between. -/
theorem faults_told_once {config : Config} {chance : Nat → UInt8} {device : Except String Unit}
    {t : Turn} (started : start config chance device = .ok t) (calls : List HostCall) :
    let h := t.host.play calls
    (h.paused = true ∨ h.halted = true → h.update = { host := h }) ∧
    (h.paused = false → h.halted = false → h.Framed h.update) ∧
    (t.effects ++ t.host.effects calls).countP Effect.isCrash =
      (stepsOf (t.host.trail calls)).countP Interpreter.halts := by
  refine ⟨update_of_idle, framed_update, ?_⟩
  rw [List.countP_append, countP_isCrash_start started, Nat.zero_add, countP_isCrash_effects]

/-- A program returns without a call in its first frame. The second update does nothing, and there
is one crash. -/
theorem faults_told_once_halts :
    let h : Host := { interpreter := { chance := fun _ => 0 } }
    let halting : Path := ⟨.here, ["halt.ch8"]⟩
    let files : Files := ⟨[(["halt.ch8"], .file [0x00, 0xEE])]⟩
    let g := h.play [.load files halting]
    let run : List HostCall := [.load files halting, .update, .update]
    start {} (fun _ => 0) (.ok ()) = .ok { host := h } ∧
      g.Framed g.update ∧ g.update.host.update = { host := g.update.host } ∧
      (stepsOf (h.trail run)).countP Interpreter.halts = 1 := by
  intro h halting files g run
  have started : start {} (fun _ => 0) (.ok ()) = .ok { host := h } := rfl
  have evaluated : g.paused = false ∧ g.halted = false ∧ g.update.host.halted = true ∧
      (h.effects run).countP Effect.isCrash = 1 := by decide +kernel
  obtain ⟨going, running, halted, once⟩ := evaluated
  obtain ⟨-, framed, -⟩ := faults_told_once started [.load files halting]
  obtain ⟨idle, -, -⟩ := faults_told_once started [.load files halting, .update]
  obtain ⟨-, -, crashes⟩ := faults_told_once started run
  exact ⟨started, framed going running, idle (.inr halted), crashes.symm.trans once⟩

end Host

end Chip8
