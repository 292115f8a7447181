import Chip8.Proofs.Reloading
import Chip8.Proofs.Sounding
import Mathlib.Algebra.Group.Nat.Even
import Mathlib.Data.List.Basic

/-!
# Calls on the sound device

The beeper calls its device when what it is told differs from what is playing, and at no other time.
Frames, pauses and the end of the main loop tell it something, in whatever order they come, and
nothing else calls the device: what a host does amounts to signals to its beeper, one after the
other. Main statement: in every run, main loops included, the calls are to play and to stop in turn,
from play on; the tone plays when their number is odd, and it is even behind a main loop that comes
to its end.
-/

namespace Chip8

/-- The call on the sound device that an effect is. -/
def Effect.sound? : Effect → Option SoundCall
  | .sound call => some call
  | _ => none

/-- The calls on the sound device among effects. -/
def sounds (effects : List Effect) : List SoundCall :=
  effects.filterMap Effect.sound?

/-- The calls of one part of the effects and then of another. -/
theorem sounds_append (first second : List Effect) :
    sounds (first ++ second) = sounds first ++ sounds second :=
  List.filterMap_append

/-- Reports call no device. -/
theorem sounds_reported (reports : List Report) : sounds (Host.reported reports) = [] := by
  rw [sounds, Host.reported, List.filterMap_map]
  apply List.filterMap_eq_nil_iff.mpr
  intro report _
  rfl

namespace SoundCall

/-- The call that is due behind so many calls. -/
def due (made : Nat) : SoundCall :=
  if Even made then .play else .stop

/-- Whether calls are to play and to stop in turn, from play on. -/
def Alternate (calls : List SoundCall) : Prop :=
  ∀ k call, calls[k]? = some call → call = due k

/-- The call that is due goes on in turn. -/
theorem Alternate.concat {calls : List SoundCall} (alternate : Alternate calls) :
    Alternate (calls ++ [due calls.length]) := by
  intro k call found
  by_cases before : k < calls.length
  · rw [List.getElem?_append_left before] at found
    exact alternate k call found
  · have within : k < (calls ++ [due calls.length]).length :=
      (List.getElem?_eq_some_iff.mp found).1
    have last : k = calls.length := by
      rw [List.length_append, List.length_singleton] at within
      omega
    subst last
    rw [List.getElem?_concat_length] at found
    exact (Option.some.inj found).symm

end SoundCall

namespace Beeper

/-! ### Signals -/

/-- The beeper behind some signals, and the effects that they have. -/
def updates (b : Beeper) : List Bool → Beeper × List Effect
  | [] => (b, [])
  | active :: signals =>
    let next := (b.update active).1.updates signals
    (next.1, (b.update active).2 ++ next.2)

variable {b : Beeper} {device : Except String Unit} {calls : List SoundCall}

/-- Signals are some of them and then the others. -/
theorem updates_append (b : Beeper) (first second : List Bool) :
    b.updates (first ++ second) =
      (((b.updates first).1.updates second).1,
        (b.updates first).2 ++ ((b.updates first).1.updates second).2) := by
  induction first generalizing b with
  | nil => rfl
  | cons active first ih =>
    simp only [List.cons_append, updates, ih, List.append_assoc]

/-- One signal is an update. -/
theorem updates_single (b : Beeper) (active : Bool) : b.updates [active] = b.update active := by
  simp only [updates, List.append_nil]

/-- What is heard of a beeper: it is called to play and to stop in turn, from play on, it plays when
the number of calls is odd, and without a device it is not called. -/
structure Heard (b : Beeper) (calls : List SoundCall) : Prop where
  alternate : SoundCall.Alternate calls
  playing : b.playing = true ↔ Odd calls.length
  silent : b.available = false → calls = []

/-- One signal is heard as the calls before it. -/
theorem Heard.update (heard : b.Heard calls) (active : Bool) :
    (b.update active).1.Heard (calls ++ sounds (b.update active).2) := by
  by_cases idle : (!b.available || active == b.playing) = true
  · have still : b.update active = (b, []) := if_pos idle
    rw [still]
    show b.Heard (calls ++ [])
    rw [List.append_nil]
    exact heard
  · have told : b.update active =
        ({ b with playing := active }, [.sound (if active then .play else .stop)]) := if_neg idle
    rw [Bool.or_eq_true_iff, not_or] at idle
    obtain ⟨device, edge⟩ := idle
    have available : b.available = true := by simpa using device
    have opposite : active = !b.playing := by
      rw [beq_iff_eq] at edge
      exact Bool.eq_not_of_ne edge
    have even : active = true ↔ Even calls.length := by
      rw [← Nat.not_odd_iff_even, ← heard.playing, opposite, Bool.not_eq_true', Bool.not_eq_true]
    -- The call is the one that is due, since what plays tells how many there were.
    have due : (if active then SoundCall.play else .stop) = .due calls.length := by
      rw [SoundCall.due]
      simp only [even]
    rw [told]
    refine ⟨?_, ?_, ?_⟩
    · show SoundCall.Alternate (calls ++ [if active then SoundCall.play else .stop])
      rw [due]
      exact heard.alternate.concat
    · show active = true ↔ Odd (calls ++ [_]).length
      rw [List.length_append, List.length_singleton, Nat.odd_add_one, Nat.not_odd_iff_even, even]
    · intro missing
      exact absurd (available.symm.trans missing) (by decide)

/-- Signals are heard as the calls before them. -/
theorem Heard.updates (heard : b.Heard calls) (signals : List Bool) :
    (b.updates signals).1.Heard (calls ++ sounds (b.updates signals).2) := by
  induction signals generalizing b calls with
  | nil =>
    show b.Heard (calls ++ [])
    rw [List.append_nil]
    exact heard
  | cons active signals ih =>
    have later := ih (heard.update active)
    rw [Beeper.updates, sounds_append, ← List.append_assoc]
    exact later

/-- No signal makes or takes away a device. -/
theorem available_updates (b : Beeper) (signals : List Bool) :
    (b.updates signals).1.available = b.available := by
  induction signals generalizing b with
  | nil => rfl
  | cons active signals ih =>
    have first : (b.update active).1.available = b.available := by
      rw [update]
      split
      · rfl
      · rfl
    rw [updates]
    exact (ih _).trans first

/-- Without a device nothing plays. -/
theorem Heard.muted (heard : b.Heard calls) : b.Muted := by
  intro missing
  rw [← Bool.not_eq_true, heard.playing, heard.silent missing]
  exact Nat.not_odd_zero

/-- Without a device nothing is called and nothing plays. -/
theorem Heard.silence {reason : String} (heard : b.Heard calls)
    (audible : b.available = true ↔ device = .ok ()) (missing : device = .error reason) :
    calls = [] ∧ b.playing = false := by
  have unavailable : b.available = false := by
    rw [← Bool.not_eq_true, audible, missing]
    exact nofun
  exact ⟨heard.silent unavailable, heard.muted unavailable⟩

/-- Whatever the signals, nothing plays without a device. -/
theorem Muted.updates (muted : b.Muted) (signals : List Bool) : (b.updates signals).1.Muted := by
  induction signals generalizing b with
  | nil => exact muted
  | cons active signals ih => exact ih (muted.update active)

/-- On a device the tone plays as the last signal says. -/
theorem playing_updates {signals : List Bool} {last : Bool} (available : b.available = true)
    (ends : signals.getLast? = some last) : (b.updates signals).1.playing = last := by
  obtain ⟨first, rfl⟩ := List.getLast?_eq_some_iff.mp ends
  have device : (b.updates first).1.available = true := by rw [available_updates, available]
  rw [updates_append, updates_single, update_of_available device]

/-- A beeper that has just been started has made no call, and has a device if there is one. -/
theorem start_heard {frequency : Int} {effects : List Effect}
    (started : start frequency device = .ok (b, effects)) :
    b.Heard (sounds effects) ∧ (b.available = true ↔ device = .ok ()) := by
  have fresh : ∀ available, Heard { available := available } [] := by
    intro available
    refine ⟨?_, ?_, fun _ => rfl⟩
    · intro k call found
      rw [List.getElem?_nil] at found
      cases found
    · simp
  cases device with
  | error reason =>
    cases started
    exact ⟨fresh false, by simp⟩
  | ok _ =>
    rw [start] at started
    obtain ⟨tone, -, new⟩ := ok_of_map_ok started
    cases new
    exact ⟨fresh true, by simp⟩

end Beeper

/-! ### What tells the beeper something -/

/-- Whether a turn gives the beeper some signals and does nothing else to it or to its device. -/
def Turn.Signals (t : Turn) (b : Beeper) : Prop :=
  ∃ signals, t.host.beeper = (b.updates signals).1 ∧
    sounds t.effects = sounds (b.updates signals).2

namespace Turn.Signals

variable {t : Turn} {b : Beeper} {next : Host → Turn} {calls : List SoundCall}

/-- A turn that leaves the beeper alone. -/
theorem none (beeper : t.host.beeper = b) (silent : sounds t.effects = []) : t.Signals b :=
  ⟨[], beeper, silent⟩

/-- A turn that gives one signal. -/
theorem one (active : Bool) (beeper : t.host.beeper = (b.update active).1)
    (called : sounds t.effects = sounds (b.update active).2) : t.Signals b := by
  refine ⟨[active], ?_, ?_⟩
  · rw [Beeper.updates_single, beeper]
  · rw [Beeper.updates_single, called]

/-- Signals of one part of what is done and then of another. -/
theorem append {host : Host} {effects : List Effect} (first : t.Signals b)
    (second : Turn.Signals { host := host, effects := effects } t.host.beeper) :
    Turn.Signals { host := host, effects := t.effects ++ effects } b := by
  obtain ⟨early, beeper, called⟩ := first
  obtain ⟨late, beeper', called'⟩ := second
  refine ⟨early ++ late, ?_, ?_⟩
  · rw [beeper', beeper, Beeper.updates_append]
  · rw [Beeper.updates_append, sounds_append, sounds_append, called, ← beeper, ← called']

/-- Turns in a row, whether or not the second one is reached. -/
theorem andThen (first : t.Signals b) (second : ∀ host, (next host).Signals host.beeper) :
    (t.andThen next).Signals b := by
  rw [Turn.andThen]
  cases t.failure with
  | some error => exact first
  | none => exact first.append (second t.host)

/-- What is heard behind a turn. -/
theorem heard (told : t.Signals b) (before : b.Heard calls) :
    t.host.beeper.Heard (calls ++ sounds t.effects) := by
  obtain ⟨signals, beeper, called⟩ := told
  rw [beeper, called]
  exact before.updates signals

/-- No turn makes or takes away a device. -/
theorem available (told : t.Signals b) : t.host.beeper.available = b.available := by
  obtain ⟨signals, beeper, -⟩ := told
  rw [beeper, Beeper.available_updates]

/-- Nothing plays without a device behind a turn. -/
theorem muted (told : t.Signals b) (before : b.Muted) : t.host.beeper.Muted := by
  obtain ⟨signals, beeper, -⟩ := told
  rw [beeper]
  exact before.updates signals

end Turn.Signals

/-- What can be asked of a host, its main loop included. -/
inductive Task where
  | call (call : HostCall)
  /-- The main loop, with the events of each frame. -/
  | loop (files : Files) (batches : List (List Event))

namespace Host

/-- What a task comes to. -/
def attend (h : Host) : Task → Turn
  | .call call => h.answer call
  | .loop files batches => run files batches h

/-- What tasks come to, one after the other, whether or not they fail. -/
def work (h : Host) : List Task → Turn
  | [] => { host := h }
  | task :: tasks =>
    let first := h.attend task
    let rest := first.host.work tasks
    { host := rest.host, effects := first.effects ++ rest.effects }

/-- Whatever happens, the beeper is given signals and nothing else. -/
theorem signals_meet (h : Host) (x : Happening) : (h.meet x).Signals h.beeper := by
  have happened := h.happened x
  generalize h.meet x = turn at happened
  have plain : ∀ (reports : List Report) (remark : String),
      sounds (reported reports ++ [h.setCaption remark]) = [] := by
    intro reports remark
    rw [sounds_append, sounds_reported]
    rfl
  cases happened with
  | loaded asked offered => exact .none rfl (by rw [sounds_append, sounds_reported]; rfl)
  | refused asked error reports => exact .none rfl (sounds_reported reports)
  | restored asked saved => exact .none rfl (plain _ "")
  | paused asked going =>
    apply Turn.Signals.one false rfl
    rw [sounds_append]
    exact List.append_nil _
  | ran going running answer =>
    apply Turn.Signals.one _ rfl
    rw [framed, sounds_append, sounds_append, sounds_reported]
    rfl
  | crashed going running answer =>
    apply Turn.Signals.one _ rfl
    rw [framed, sounds_append, sounds_append, sounds_reported]
    rfl
  | _ => exact .none rfl rfl

/-- A batch of events gives the beeper signals. -/
theorem signals_handleAll (files : Files) (events : List Event) (h : Host) :
    (handleAll files events h).Signals h.beeper := by
  induction events generalizing h with
  | nil => exact .none rfl rfl
  | cons event events ih => exact (h.signals_meet (.event files event)).andThen ih

/-- A call gives the beeper signals. -/
theorem signals_answer (h : Host) (call : HostCall) : (h.answer call).Signals h.beeper := by
  cases call with
  | load files path => exact h.signals_meet (.load files path)
  | handle files events => exact signals_handleAll files events h
  | update => exact h.signals_meet .update
  | render => exact h.signals_meet .render

/-- A frame in time with the clock gives the beeper signals. -/
theorem signals_frame (files : Files) (events : List Event) (h : Host) :
    ((frame files events h).andEmit (.pace Timer.rate)).Signals h.beeper := by
  have updated := fun g : Host => g.signals_meet .update
  have rendered := fun g : Host => g.signals_meet .render
  have beat : ∀ g : Host, Turn.Signals { host := g, effects := [.pace Timer.rate] } g.beeper :=
    fun g => .none rfl rfl
  exact (((signals_handleAll files events h).andThen updated).andThen rendered).andThen beat

/-- The end of the main loop gives the beeper a signal. -/
theorem signals_close (h : Host) : h.close.Signals h.beeper := by
  have silenced : (h.beep false).Signals h.beeper := .one false rfl rfl
  have closed : ∀ g : Host, Turn.Signals { host := g, effects := [.close] } g.beeper :=
    fun g => .none rfl rfl
  exact silenced.andThen closed

/-- The main loop gives the beeper signals. -/
theorem signals_run (files : Files) (batches : List (List Event)) (h : Host) :
    (run files batches h).Signals h.beeper := by
  induction batches generalizing h with
  | nil =>
    by_cases running : h.running = true
    · rw [run, if_pos running]
      exact (signals_frame files [.quit] h).andThen signals_close
    · rw [run, if_neg running]
      exact h.signals_close
  | cons events batches ih =>
    by_cases running : h.running = true
    · rw [run, if_pos running]
      exact (signals_frame files events h).andThen ih
    · rw [run, if_neg running]
      exact h.signals_close

/-- Tasks give the beeper signals. -/
theorem signals_work (h : Host) (tasks : List Task) : (h.work tasks).Signals h.beeper := by
  induction tasks generalizing h with
  | nil => exact .none rfl rfl
  | cons task tasks ih =>
    have first : (h.attend task).Signals h.beeper := by
      cases task with
      | call call => exact h.signals_answer call
      | loop files batches => exact signals_run files batches h
    exact first.append (ih _)

/-- Turns in a row leave nothing playing if the second one does and is reached. -/
theorem silent_of_andThen {t : Turn} {next : Host → Turn} {b : Beeper} (told : t.Signals b)
    (muted : b.Muted) (ended : (t.andThen next).failure = none)
    (silences : ∀ g : Host, g.beeper.Muted → (next g).failure = none →
      (next g).host.beeper.playing = false) :
    (t.andThen next).host.beeper.playing = false := by
  have whole : (t.andThen next).Reaches (t.andThen next).host := ⟨ended, rfl⟩
  obtain ⟨g, first, second⟩ := whole.of_andThen
  have quiet : g.beeper.Muted := by
    rw [← first.host]
    exact told.muted muted
  rw [← second.host]
  exact silences g quiet second.failure

/-- Behind a main loop that comes to its end nothing plays. -/
theorem silent_run {files : Files} {batches : List (List Event)} {h : Host}
    (muted : h.beeper.Muted) (ended : (run files batches h).failure = none) :
    (run files batches h).host.beeper.playing = false := by
  induction batches generalizing h with
  | nil =>
    by_cases running : h.running = true
    · rw [run, if_pos running] at ended ⊢
      exact silent_of_andThen (signals_frame files [.quit] h) muted ended
        fun g quiet _ => quiet.playing_update_false
    · rw [run, if_neg running]
      exact muted.playing_update_false
  | cons events batches ih =>
    by_cases running : h.running = true
    · rw [run, if_pos running] at ended ⊢
      exact silent_of_andThen (signals_frame files events h) muted ended
        fun g quiet fine => ih quiet fine
    · rw [run, if_neg running]
      exact muted.playing_update_false

/-- A host starts with a beeper that has just been started. -/
theorem beeper_start {config : Config} {chance : Nat → UInt8} {device : Except String Unit}
    {t : Turn} (started : start config chance device = .ok t) :
    Beeper.start config.toneRate device = .ok (t.host.beeper, t.effects) := by
  rw [start] at started
  split at started
  · cases started
  · cases started
  · rename_i beeper effects audible
    cases started
    exact audible

/-- The calls on the sound device alternate. Begin with any host, give it any tasks, and go through
them whether or not they fail: the calls are to play and to stop in turn, from play on, and the tone
plays when their number is odd; behind a main loop that comes to its end it is even. Without a
device there is no call, and nothing plays. The same holds of any beeper under any signals, and on a
device it plays then as the last signal says. -/
theorem sound_calls_alternate {config : Config} {chance : Nat → UInt8}
    {device : Except String Unit} {t : Turn} (started : start config chance device = .ok t)
    (tasks : List Task) :
    let done := t.host.work tasks
    let calls := sounds (t.effects ++ done.effects)
    done.host.beeper.Heard calls ∧
    (∀ files batches, (run files batches done.host).failure = none →
      Even (calls ++ sounds (run files batches done.host).effects).length) ∧
    (∀ reason, device = .error reason → calls = [] ∧ done.host.beeper.playing = false) ∧
    ∀ frequency device b effects, Beeper.start frequency device = .ok (b, effects) →
      ∀ signals : List Bool,
        let told := b.updates signals
        let heard := sounds (effects ++ told.2)
        told.1.Heard heard ∧
        (∀ last, device = .ok () → signals.getLast? = some last → told.1.playing = last) ∧
        (∀ reason, device = .error reason → heard = [] ∧ told.1.playing = false) := by
  intro done calls
  obtain ⟨begun, audible⟩ := Beeper.start_heard (beeper_start started)
  have told := t.host.signals_work tasks
  have heard : done.host.beeper.Heard calls := by
    rw [show calls = sounds t.effects ++ sounds done.effects from sounds_append _ _]
    exact told.heard begun
  refine ⟨heard, ?_, ?_, ?_⟩
  · intro files batches ended
    have last := (signals_run files batches done.host).heard heard
    have quiet := silent_run heard.muted ended
    rw [← Nat.not_odd_iff_even, ← last.playing, quiet]
    exact Bool.false_ne_true
  · intro reason missing
    have same : done.host.beeper.available = t.host.beeper.available := told.available
    exact heard.silence (by rw [same, audible]) missing
  · intro frequency device b effects fresh signals told heard
    obtain ⟨begun, audible⟩ := Beeper.start_heard fresh
    have same : told.1.available = b.available := b.available_updates signals
    have behind : told.1.Heard heard := by
      rw [show heard = sounds effects ++ sounds told.2 from sounds_append _ _]
      exact begun.updates signals
    refine ⟨behind, ?_, ?_⟩
    · intro last present ends
      exact Beeper.playing_updates (audible.mpr present) ends
    · intro reason missing
      exact behind.silence (by rw [same, audible]) missing

/-- A program sounds the tone in its first frame, a pause takes it away, the frame behind the pause
brings it back, and the end of the main loop takes it away again. Without a device nothing of this
is heard. -/
theorem sound_calls_alternate_pause :
    let beeping : Path := ⟨.here, ["beep.ch8"]⟩
    let files : Files := ⟨[(["beep.ch8"], .file [0x60, 0xFF, 0xF0, 0x18, 0x12, 0x04])]⟩
    let tasks : List Task := [.call (.load files beeping), .call .update,
      .call (.handle files [.pauseKey, .pauseKey]), .call .update]
    let new : Host := { interpreter := { chance := fun _ => 0 } }
    let mute : Host := { new with beeper := { available := false } }
    let reason := "no audio device"
    let done := new.work tasks
    let calls := sounds done.effects
    start {} (fun _ => 0) (.ok ()) = .ok { host := new } ∧
    start {} (fun _ => 0) (.error reason) =
      .ok { host := mute, effects := [.report (.audioDisabled reason)] } ∧
    calls = [.play, .stop, .play] ∧ done.host.beeper.Heard calls ∧
    Even (calls ++ sounds (run files [[.quit]] done.host).effects).length ∧
    (mute.work tasks).host.beeper.playing = false ∧
    (({} : Beeper).updates [true, true, false]).1.playing = false := by
  intro beeping files tasks new mute reason done calls
  have started : start {} (fun _ => 0) (.ok ()) = .ok { host := new } := rfl
  have muted : start {} (fun _ => 0) (.error reason) =
      .ok { host := mute, effects := [.report (.audioDisabled reason)] } := rfl
  have evaluated : calls = [.play, .stop, .play] ∧
      (run files [[.quit]] done.host).failure = none := by decide +kernel
  obtain ⟨made, ended⟩ := evaluated
  obtain ⟨heard, even, -, beeper⟩ := sound_calls_alternate started tasks
  obtain ⟨-, -, silent, -⟩ := sound_calls_alternate muted tasks
  obtain ⟨-, last, -⟩ := beeper 440 (.ok ()) {} [] rfl [true, true, false]
  have last' := even files [[.quit]] ended
  -- Without the effects of the start, which are none, the calls are the same as they stand.
  have alone : sounds ([] ++ done.effects) = calls := by rw [List.nil_append]
  change done.host.beeper.Heard (sounds ([] ++ done.effects)) at heard
  change Even (sounds ([] ++ done.effects) ++ _).length at last'
  rw [alone] at heard last'
  exact ⟨started, muted, made, heard, last', (silent reason rfl).2, last false rfl rfl⟩

end Host

end Chip8
