import Chip8.Host.Basic

/-!
# Runs of the host

A host is asked to load programs, to handle batches of events, to update and to render, in any
order. A batch is many events, and one that fails loses those behind it, so a run is taken apart
into the single things that happen to the host. Main statement: what holds of the things that have
happened so far and the host, and is kept by every single one, holds at the end of every run.
-/

namespace Chip8

/-- What a host can be asked to do. -/
inductive HostCall where
  | load (files : Files) (path : Path)
  | handle (files : Files) (events : List Event)
  | update
  | render

/-- One thing that happens to a host. -/
inductive Happening where
  | load (files : Files) (path : Path)
  | event (files : Files) (event : Event)
  | update
  | render

namespace Host

/-- Whether the machine is halted. -/
def halted (h : Host) : Bool :=
  h.interpreter.machine.isHalted

/-- An update does nothing while the host is paused or the machine halted. -/
theorem update_of_idle {h : Host} (idle : h.paused = true ∨ h.halted = true) :
    h.update = { host := h } :=
  if_pos (Bool.or_eq_true_iff.mpr idle)

/-- What a call comes to. -/
def answer (h : Host) : HostCall → Turn
  | .load files path => h.load files path
  | .handle files events => handleAll files events h
  | .update => h.update
  | .render => h.render

/-- The host after some calls, whether or not they fail. -/
def play (h : Host) (calls : List HostCall) : Host :=
  calls.foldl (fun g call => (g.answer call).host) h

/-- What one thing that happens comes to. -/
def meet (h : Host) : Happening → Turn
  | .load files path => h.load files path
  | .event files event => h.handle files event
  | .update => h.update
  | .render => h.render

/-- The events of a batch as far as they are handled, each with the host in front of it. -/
def eventsTrail (files : Files) : List Event → Host → List (Host × Happening)
  | [], _ => []
  | event :: events, h =>
    (h, .event files event) :: match (h.handle files event).failure with
      | some _ => []
      | none => eventsTrail files events (h.handle files event).host

/-- What happens in a call, each thing with the host in front of it. -/
def callTrail (h : Host) : HostCall → List (Host × Happening)
  | .load files path => [(h, .load files path)]
  | .handle files events => eventsTrail files events h
  | .update => [(h, .update)]
  | .render => [(h, .render)]

/-- What happens in a run, each thing with the host in front of it. -/
def trail (h : Host) : List HostCall → List (Host × Happening)
  | [] => []
  | call :: calls => h.callTrail call ++ (h.answer call).host.trail calls

/-- A batch goes on behind an event unless the event fails. -/
theorem host_handleAll_cons (files : Files) (event : Event) (events : List Event) (h : Host) :
    (handleAll files (event :: events) h).host =
      match (h.handle files event).failure with
      | some _ => (h.handle files event).host
      | none => (handleAll files events (h.handle files event).host).host := by
  rw [handleAll, Turn.andThen]
  cases (h.handle files event).failure with
  | some _ => rfl
  | none => rfl

/-- What every single thing that happens keeps of the past and the host. -/
def Kept (P : List (Host × Happening) → Host → Prop) : Prop :=
  ∀ past h x, P past h → P (past ++ [(h, x)]) (h.meet x).host

namespace Kept

variable {P : List (Host × Happening) → Host → Prop} {past : List (Host × Happening)} {h : Host}

/-- What is kept holds after a batch of events. -/
theorem handleAll (kept : Kept P) (files : Files) (events : List Event) (holds : P past h) :
    P (past ++ eventsTrail files events h) (handleAll files events h).host := by
  induction events generalizing past h with
  | nil =>
    rw [eventsTrail, List.append_nil]
    exact holds
  | cons event events ih =>
    have next : P (past ++ [(h, .event files event)]) (h.handle files event).host :=
      kept past h (.event files event) holds
    rw [eventsTrail, host_handleAll_cons]
    cases (h.handle files event).failure with
    | some _ => exact next
    | none =>
      rw [List.append_cons]
      exact ih next

/-- What is kept holds after a call. -/
theorem answer (kept : Kept P) (call : HostCall) (holds : P past h) :
    P (past ++ h.callTrail call) (h.answer call).host := by
  cases call with
  | load files path => exact kept past h (.load files path) holds
  | handle files events => exact kept.handleAll files events holds
  | update => exact kept past h .update holds
  | render => exact kept past h .render holds

/-- What is kept holds at the end of a run. -/
theorem play (kept : Kept P) (calls : List HostCall) (holds : P past h) :
    P (past ++ h.trail calls) (h.play calls) := by
  induction calls generalizing past h with
  | nil =>
    rw [trail, List.append_nil]
    exact holds
  | cons call calls ih =>
    rw [trail, ← List.append_assoc]
    exact ih (kept.answer call holds)

end Kept

end Host

end Chip8
