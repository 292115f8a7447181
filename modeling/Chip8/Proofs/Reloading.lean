import Chip8.Proofs.Keyboard
import Chip8.Proofs.Pausing

/-!
# Beginning anew with a program that is gone

The key that begins anew loads the program from its file, which may be gone by then. A load that
fails changes nothing, but it is not caught where the events of a batch are handled, nor in the main
loop. Main statement: as long as no such load fails, every event of a batch counts and the main loop
ends, behind the frame in which it is asked to, with the tone off and the window closed; when one
fails, the events behind it are lost and the main loop breaks off without that end.
-/

namespace Chip8

/-- Whether an event asks the host to end. -/
def Event.Leaves (event : Event) : Prop :=
  event = .quit ∨ event.asked? = some .leave

namespace Beeper

/-- Whether nothing plays without a sound device. -/
def Muted (b : Beeper) : Prop :=
  b.available = false → b.playing = false

variable {b : Beeper}

/-- Whatever the beeper is told, nothing plays without a sound device. -/
theorem Muted.update (muted : b.Muted) (active : Bool) : (b.update active).1.Muted := by
  rw [Beeper.update]
  split
  · exact muted
  · rename_i audible
    intro missing
    have missing : b.available = false := missing
    simp [missing] at audible

/-- Told to be silent, the beeper is. -/
theorem Muted.playing_update_false (muted : b.Muted) : (b.update false).1.playing = false := by
  rw [Beeper.update]
  cases available : b.available with
  | false => exact muted available
  | true =>
    cases playing : b.playing with
    | false => exact playing
    | true => rfl

end Beeper

/-! ### Turns in a row -/

namespace Turn

variable {t : Turn} {f g : Host → Turn}

/-- A turn that failed is not followed by another one. -/
theorem andThen_of_failure (failed : t.failure ≠ none) : t.andThen f = t := by
  obtain ⟨error, failure⟩ := Option.ne_none_iff_exists'.mp failed
  rw [andThen, failure]

/-- Turns in a row may be taken together as one likes. -/
theorem andThen_assoc (t : Turn) (f g : Host → Turn) :
    (t.andThen f).andThen g = t.andThen fun host => (f host).andThen g := by
  cases failed : t.failure with
  | some error => simp only [andThen, failed]
  | none =>
    cases next : (f t.host).failure with
    | some error => simp only [andThen, failed, next]
    | none => simp only [andThen, failed, next, List.append_assoc]

/-- What follows a turn matters only for the host that the turn leaves, if it does not fail. -/
theorem andThen_congr (same : t.failure = none → f t.host = g t.host) :
    t.andThen f = t.andThen g := by
  cases failed : t.failure with
  | some error => simp only [andThen, failed]
  | none => simp only [andThen, failed, same failed]

/-- Whether the window is still open behind a turn. -/
def Open (t : Turn) : Prop :=
  .close ∉ t.effects

/-- Turns that do not close the window do not do so in a row. -/
theorem Open.andThen (first : t.Open) (second : ∀ host, (f host).Open) : (t.andThen f).Open := by
  rw [Turn.andThen]
  cases t.failure with
  | some error => exact first
  | none => exact List.not_mem_append first (second t.host)

end Turn

namespace Host

variable {files : Files} {h g : Host} {event : Event} {events : List Event}

/-! ### Events -/

/-- Whether the program of a host, if it has one, can be loaded again. -/
def Reloadable (h : Host) (files : Files) : Prop :=
  ∀ path, h.programPath = some path → ∃ program, files.Offers path program

/-- The host after all of some events, whether or not they fail. -/
def handleEach (h : Host) (files : Files) (events : List Event) : Host :=
  events.foldl (fun g event => (g.handle files event).host) h

/-- Whether a program can be loaded again depends on where it was loaded from. -/
theorem reloadable_iff_of_same (same : g.programPath = h.programPath) :
    g.Reloadable files ↔ h.Reloadable files := by
  rw [Reloadable, Reloadable, same]

/-- No event takes a host away from where its program was loaded from. -/
theorem programPath_handle (h : Host) (files : Files) (event : Event) :
    (h.handle files event).host.programPath = h.programPath := by
  have happened := h.happened (.event files event)
  change Happened h _ (h.handle files event) at happened
  generalize h.handle files event = turn at happened
  cases happened with
  | loaded asked offered =>
    cases asked with
    | reset event asked loaded => exact loaded.symm
  | _ => rfl

/-- An event fails exactly when it asks for a program that cannot be loaded again. -/
theorem failure_handle_iff :
    (h.handle files event).failure ≠ none ↔
      event.asked? = some .reset ∧ ¬h.Reloadable files := by
  constructor
  · intro failed
    have asked := asked_of_failure failed
    refine ⟨asked, fun reloadable => failed ?_⟩
    rw [handle_of_asked asked, obey, reset]
    cases loaded : h.programPath with
    | none => rfl
    | some path =>
      obtain ⟨program, offered⟩ := reloadable path loaded
      simp only [h.load_of_offers offered]
  · rintro ⟨asked, spent⟩
    obtain ⟨path, loaded, missing⟩ : ∃ path, h.programPath = some path ∧
        ¬∃ program, files.Offers path program := by
      simpa only [Reloadable, not_forall, exists_prop] using spent
    obtain ⟨error, reports, refused⟩ := (load_cases files path).resolve_left missing
    rw [handle_of_asked asked]
    simp only [obey, reset, loaded, refused h]
    exact Option.some_ne_none error

/-- An event that fails leaves the host as it was. -/
theorem host_handle_of_failure (failed : (h.handle files event).failure ≠ none) :
    (h.handle files event).host = h := by
  have asked := asked_of_failure failed
  rw [handle_of_asked asked, obey, reset] at failed ⊢
  cases loaded : h.programPath with
  | none =>
    rw [loaded] at failed
    exact absurd rfl failed
  | some path =>
    rw [loaded] at failed
    exact (load_of_failure failed).1

/-- A batch fails exactly when it asks for a program that cannot be loaded again. -/
theorem failure_handleAll_iff :
    (handleAll files events h).failure ≠ none ↔
      ¬h.Reloadable files ∧ ∃ event ∈ events, event.asked? = some .reset := by
  induction events generalizing h with
  | nil => simp [handleAll]
  | cons event events ih =>
    have here := @failure_handle_iff files h event
    rw [handleAll]
    cases failed : (h.handle files event).failure with
    | some error =>
      obtain ⟨asked, spent⟩ := here.mp (failed.trans_ne (Option.some_ne_none error))
      rw [Turn.andThen_of_failure (failed.trans_ne (Option.some_ne_none error)), failed]
      exact iff_of_true (Option.some_ne_none error) ⟨spent, event, List.mem_cons_self, asked⟩
    | none =>
      have unasked : ¬h.Reloadable files → event.asked? ≠ some .reset :=
        fun spent asked => here.mpr ⟨asked, spent⟩ failed
      have next : ((h.handle files event).andThen (handleAll files events)).failure =
          (handleAll files events (h.handle files event).host).failure := by
        rw [Turn.andThen, failed]
      rw [next, ih, reloadable_iff_of_same (programPath_handle h files event)]
      constructor
      · rintro ⟨spent, later, member, asked⟩
        exact ⟨spent, later, List.mem_cons_of_mem event member, asked⟩
      · rintro ⟨spent, later, member, asked⟩
        rcases List.mem_cons.mp member with rfl | member
        · exact absurd asked (unasked spent)
        · exact ⟨spent, later, member, asked⟩

/-- All events of a batch count if none of them fails. -/
theorem reaches_handleEach (fine : (handleAll files events h).failure = none) :
    (handleAll files events h).Reaches (h.handleEach files events) := by
  induction events generalizing h with
  | nil => exact ⟨rfl, rfl⟩
  | cons event events ih =>
    have whole : (handleAll files (event :: events) h).Reaches _ := ⟨fine, rfl⟩
    obtain ⟨next, one, rest⟩ := whole.of_andThen
    obtain ⟨failure, rfl⟩ := one
    exact Turn.Reaches.andThen ⟨failure, rfl⟩ (ih rest.failure)

/-- Only the events in front of one that fails count. -/
theorem handleAll_of_failure {before after : List Event}
    (clear : ∀ x ∈ before, x.asked? ≠ some .reset) (asked : event.asked? = some .reset)
    (spent : ¬h.Reloadable files) :
    let t := handleAll files (before ++ event :: after) h
    t.failure ≠ none ∧ t.host = h.handleEach files before := by
  induction before generalizing h with
  | nil =>
    have failed := failure_handle_iff.mpr ⟨asked, spent⟩
    have turn : handleAll files (event :: after) h = h.handle files event :=
      Turn.andThen_of_failure failed
    rw [List.nil_append, turn]
    exact ⟨failed, host_handle_of_failure failed⟩
  | cons x before ih =>
    obtain ⟨here, later⟩ := List.forall_mem_cons.mp clear
    have fine : (h.handle files x).failure = none :=
      not_not.mp fun failed => here (failure_handle_iff.mp failed).1
    have still := (reloadable_iff_of_same (programPath_handle h files x)).not.mpr spent
    rw [List.cons_append, handleAll, Turn.andThen, fine]
    exact ih later still

/-! ### Whether the host goes on -/

/-- A key ends the host or leaves it going as it was. -/
theorem running_obey (h : Host) (files : Files) (key : HotKey) :
    (h.obey files key).host.running = true ↔ h.running = true ∧ key ≠ .leave := by
  have going : key ≠ .leave → (h.obey files key).host.running = h.running := by
    intro other
    cases key with
    | leave => exact absurd rfl other
    | pause =>
      cases before : h.paused with
      | true => simp only [obey, togglePause, before]; rfl
      | false => simp only [obey, togglePause, before]; rfl
    | reset =>
      cases loaded : h.programPath with
      | none => simp only [obey, reset, loaded]
      | some path =>
        simp only [obey, reset, loaded]
        rcases load_cases files path with ⟨program, offered⟩ | ⟨error, reports, refused⟩
        · rw [h.load_of_offers offered]
          rfl
        · rw [refused h]
    | restore =>
      cases saved : h.saved with
      | none => simp only [obey, restore, saved]
      | some s => simp only [obey, restore, saved]
    | _ => rfl
  by_cases leaving : key = .leave
  · rw [leaving]
    simp [obey]
  · rw [going leaving]
    exact ⟨fun running => ⟨running, leaving⟩, And.left⟩

/-- An event ends the host or leaves it going as it was. -/
theorem running_handle (h : Host) (files : Files) (event : Event) :
    (h.handle files event).host.running = true ↔ h.running = true ∧ ¬event.Leaves := by
  cases event with
  | quit => simp [handle, Event.Leaves]
  | other => simp [handle, Event.Leaves, Event.asked?]
  | keyUp code =>
    rw [handle]
    cases Key.ofCode? code with
    | none => simp [Event.Leaves, Event.asked?]
    | some key => simp [Event.Leaves, Event.asked?, onMachine]
  | keyDown code =>
    rw [handle]
    cases known : HotKey.ofCode? code with
    | none => simp [Event.Leaves, Event.asked?, known]
    | some key =>
      simp only [running_obey]
      simp [Event.Leaves, Event.asked?, known]

/-- Events end the host if one of them does. -/
theorem running_handleEach (h : Host) (files : Files) (events : List Event) :
    (h.handleEach files events).running = true ↔
      h.running = true ∧ ∀ event ∈ events, ¬event.Leaves := by
  induction events generalizing h with
  | nil => simp [handleEach]
  | cons event events ih =>
    rw [List.forall_mem_cons, ← and_assoc, ← running_handle]
    exact ih (h.handle files event).host

/-- Events do not take a host away from where its program was loaded from. -/
theorem programPath_handleEach (h : Host) (files : Files) (events : List Event) :
    (h.handleEach files events).programPath = h.programPath := by
  induction events generalizing h with
  | nil => rfl
  | cons event events ih => exact (ih _).trans (programPath_handle h files event)

/-- The rest of a frame changes neither whether the host goes on nor where its program was loaded
from. -/
theorem finished_keeps (h : Host) :
    h.finished.running = h.running ∧ h.finished.programPath = h.programPath := by
  rw [finished, render, update]
  split
  · exact ⟨rfl, rfl⟩
  · exact ⟨rfl, rfl⟩

/-! ### The tone -/

/-- Whatever happens, nothing plays without a sound device. -/
theorem muted_meet (muted : h.beeper.Muted) (x : Happening) : (h.meet x).host.beeper.Muted := by
  have happened := h.happened x
  generalize h.meet x = turn at happened
  cases happened with
  | paused asked going => exact muted.update false
  | ran going running answer => exact muted.update _
  | crashed going running answer => exact muted.update _
  | _ => exact muted

/-- Nothing plays without a sound device in any run. -/
theorem muted_play (muted : h.beeper.Muted) (calls : List HostCall) :
    (h.play calls).beeper.Muted :=
  have kept : Kept fun _ g => g.beeper.Muted := fun _ _ x holds => muted_meet holds x
  @Kept.play _ [] _ kept calls muted

/-- Nothing plays without a sound device behind events and the rest of their frame. -/
theorem muted_finished (muted : h.beeper.Muted) (files : Files) (events : List Event) :
    (h.handleEach files events).finished.beeper.Muted := by
  induction events generalizing h with
  | nil => exact muted_meet (muted_meet muted .update) .render
  | cons event events ih => exact ih (muted_meet muted (.event files event))

/-! ### Frames in a row -/

/-- Frames in a row, each in time with the clock. -/
def paced (files : Files) : List (List Event) → Host → Turn
  | [], h => { host := h }
  | events :: batches, h =>
    ((frame files events h).andEmit (.pace Timer.rate)).andThen (paced files batches)

/-- A frame fails exactly when its events do. -/
theorem failure_frame_iff {effect : Effect} :
    ((frame files events h).andEmit effect).failure ≠ none ↔
      (handleAll files events h).failure ≠ none := by
  constructor
  · intro failed fine
    have framed := reaches_frame (reaches_handleEach fine)
    have shown : ((frame files events h).andEmit effect).Reaches _ := framed.andThen ⟨rfl, rfl⟩
    exact failed shown.failure
  · intro failed
    rw [Turn.andEmit, frame, Turn.andThen_assoc, Turn.andThen_assoc, Turn.andThen_of_failure failed]
    exact failed

/-- A frame that does not fail. -/
theorem reaches_paced_frame {effect : Effect}
    (fine : ((frame files events h).andEmit effect).failure = none) :
    ((frame files events h).andEmit effect).Reaches (h.handleEach files events).finished := by
  have handled : (handleAll files events h).failure = none :=
    not_not.mp fun failed => failure_frame_iff.mpr failed fine
  exact (reaches_frame (reaches_handleEach handled)).andThen ⟨rfl, rfl⟩

/-- Frames fail exactly when one of their events asks for a program that cannot be loaded again. -/
theorem failure_paced_iff {batches : List (List Event)} :
    (paced files batches h).failure ≠ none ↔
      ¬h.Reloadable files ∧ ∃ event ∈ batches.flatten, event.asked? = some .reset := by
  induction batches generalizing h with
  | nil => simp [paced]
  | cons events batches ih =>
    have here := (@failure_frame_iff files h events (.pace Timer.rate)).trans failure_handleAll_iff
    rw [paced, List.flatten_cons]
    simp only [List.mem_append, or_and_right, exists_or]
    cases failed : ((frame files events h).andEmit (.pace Timer.rate)).failure with
    | some error =>
      have broken := failed.trans_ne (Option.some_ne_none error)
      obtain ⟨spent, asked⟩ := here.mp broken
      rw [Turn.andThen_of_failure broken]
      exact iff_of_true broken ⟨spent, .inl asked⟩
    | none =>
      obtain ⟨-, left⟩ := reaches_paced_frame failed
      have path : ((frame files events h).andEmit (.pace Timer.rate)).host.programPath =
          h.programPath := by
        rw [left, (finished_keeps _).2, programPath_handleEach]
      have next : (((frame files events h).andEmit (.pace Timer.rate)).andThen
          (paced files batches)).failure =
          (paced files batches ((frame files events h).andEmit (.pace Timer.rate)).host).failure := by
        rw [Turn.andThen, failed]
      rw [next, ih, reloadable_iff_of_same path]
      constructor
      · rintro ⟨spent, asked⟩
        exact ⟨spent, .inr asked⟩
      · rintro ⟨spent, asked | asked⟩
        · exact absurd failed (here.mpr ⟨spent, asked⟩)
        · exact ⟨spent, asked⟩

/-- Nothing plays without a sound device behind frames that do not fail. -/
theorem muted_paced {batches : List (List Event)} (muted : h.beeper.Muted)
    (fine : (paced files batches h).failure = none) :
    (paced files batches h).host.beeper.Muted := by
  induction batches generalizing h with
  | nil => exact muted
  | cons events batches ih =>
    have whole : (paced files (events :: batches) h).Reaches _ := ⟨fine, rfl⟩
    obtain ⟨next, one, rest⟩ := whole.of_andThen
    have left := (reaches_paced_frame one.failure).host
    have still : next.beeper.Muted := by
      rw [← one.host, left]
      exact muted_finished muted files events
    have last := ih still rest.failure
    rw [rest.host] at last
    exact last

/-- The main loop runs the frames up to the first in which it is asked to end, and then ends. -/
theorem run_eq_paced {first rest : List (List Event)} {last : List Event}
    (running : h.running = true) (staying : ∀ batch ∈ first, ∀ event ∈ batch, ¬event.Leaves)
    (leaving : ∃ event ∈ last, event.Leaves) :
    run files (first ++ last :: rest) h =
      (paced files (first ++ [last]) h).andThen close := by
  induction first generalizing h with
  | nil =>
    rw [List.nil_append, List.nil_append, run, if_pos running, paced, Turn.andThen_assoc]
    apply Turn.andThen_congr
    intro fine
    obtain ⟨-, left⟩ := reaches_paced_frame fine
    -- Whatever batches are left, the loop finds the host stopped.
    have ended : ¬((frame files last h).andEmit (.pace Timer.rate)).host.running = true := by
      rw [left, (finished_keeps _).1, running_handleEach]
      rintro ⟨-, stays⟩
      obtain ⟨event, member, leaves⟩ := leaving
      exact stays event member leaves
    have closing : ∀ rest, run files rest
        ((frame files last h).andEmit (.pace Timer.rate)).host =
          ((frame files last h).andEmit (.pace Timer.rate)).host.close := by
      intro rest
      cases rest with
      | nil => exact if_neg ended
      | cons batch rest => exact if_neg ended
    exact closing rest
  | cons batch first ih =>
    obtain ⟨here, later⟩ := List.forall_mem_cons.mp staying
    rw [List.cons_append, List.cons_append, run, if_pos running, paced, Turn.andThen_assoc]
    apply Turn.andThen_congr
    intro fine
    obtain ⟨-, left⟩ := reaches_paced_frame fine
    have going : ((frame files batch h).andEmit (.pace Timer.rate)).host.running = true := by
      rw [left, (finished_keeps _).1, running_handleEach]
      exact ⟨running, here⟩
    exact ih going later

/-! ### Windows that stay open -/

/-- Reports close no window. -/
theorem close_not_mem_reported (reports : List Report) : Effect.close ∉ reported reports := by
  simp [reported]

/-- The beeper closes no window. -/
theorem close_not_mem_beeper (b : Beeper) (active : Bool) :
    Effect.close ∉ (b.update active).2 := by
  rw [Beeper.update]
  split
  · exact List.not_mem_nil
  · simp

/-- Whatever happens, the window stays open. -/
theorem open_meet (h : Host) (x : Happening) : (h.meet x).Open := by
  have happened := h.happened x
  generalize h.meet x = turn at happened
  rw [Turn.Open]
  cases happened with
  | refused asked error reports => exact close_not_mem_reported reports
  | _ => simp [framed, setCaption, close_not_mem_reported, close_not_mem_beeper]

/-- The window stays open while events are handled. -/
theorem open_handleAll (files : Files) (events : List Event) (h : Host) :
    (handleAll files events h).Open := by
  induction events generalizing h with
  | nil => exact List.not_mem_nil
  | cons event events ih => exact (open_meet h (.event files event)).andThen ih

/-- The window stays open in all frames. -/
theorem open_paced (files : Files) (batches : List (List Event)) (h : Host) :
    (paced files batches h).Open := by
  induction batches generalizing h with
  | nil => exact List.not_mem_nil
  | cons events batches ih =>
    have updated := fun g : Host => open_meet g .update
    have rendered := fun g : Host => open_meet g .render
    have beat : ∀ g : Host, Turn.Open { host := g, effects := [.pace Timer.rate] } := by
      simp [Turn.Open]
    exact ((((open_handleAll files events h).andThen updated).andThen rendered).andThen beat).andThen
      ih

/-! ### Batches and runs -/

/-- What the main loop comes to when it is asked to end: the frames, and then the tone goes off and
the window closes. -/
structure Ends (frames turn : Turn) : Prop where
  failure : turn.failure = none
  silent : turn.host.beeper.playing = false
  effects : turn.effects = frames.effects ++ (frames.host.beeper.update false).2 ++ [.close]

/-- What the main loop comes to when one of its frames fails: the frames as far as they got, and no
more. -/
structure BreaksOff (frames turn : Turn) : Prop where
  failure : turn.failure ≠ none
  cut : turn = frames
  window : turn.Open

/-- The main loop ends behind frames that do not fail. -/
theorem ends_close {frames : Turn} (fine : frames.failure = none)
    (muted : frames.host.beeper.Muted) : Ends frames (frames.andThen close) := by
  rw [Turn.andThen, fine]
  exact ⟨rfl, muted.playing_update_false, (List.append_assoc ..).symm⟩

/-- Begin with any run, at whose end the program may or may not be there to be loaded again. If it
is, or if no event asks for it, all events of a batch count; otherwise those in front of the first
event that asks for it count, and what that event fails at changes nothing. The main loop makes its
frames up to the first in which it is asked to end. If the program is there, or if no event of these
frames asks for it, the tone goes off then and the window closes; otherwise the main loop breaks off
where the program is missing, with the window open. -/
theorem failed_reload_ends_run {config : Config} {chance : Nat → UInt8}
    {device : Except String Unit} {t : Turn} (started : start config chance device = .ok t)
    (calls : List HostCall) (files : Files) :
    let h := t.host.play calls
    (∀ events, (h.Reloadable files ∨ ∀ event ∈ events, event.asked? ≠ some .reset) →
      (handleAll files events h).Reaches (h.handleEach files events)) ∧
    (∀ before event after, ¬h.Reloadable files → event.asked? = some .reset →
      (∀ x ∈ before, x.asked? ≠ some .reset) →
      let turn := handleAll files (before ++ event :: after) h
      turn.failure ≠ none ∧ turn.host = h.handleEach files before) ∧
    ∀ first last rest, h.running = true →
      (∀ batch ∈ first, ∀ event ∈ batch, ¬event.Leaves) → (∃ event ∈ last, event.Leaves) →
      let frames := paced files (first ++ [last]) h
      let turn := run files (first ++ last :: rest) h
      let asks := ∃ event ∈ (first ++ [last]).flatten, event.asked? = some .reset
      (h.Reloadable files ∨ ¬asks → Ends frames turn) ∧
      (¬h.Reloadable files → asks → BreaksOff frames turn) := by
  intro h
  have muted : h.beeper.Muted := muted_play (fun _ => (start_quiet started).1) calls
  refine ⟨?_, ?_, ?_⟩
  · intro events safe
    apply reaches_handleEach
    refine not_not.mp fun failed => ?_
    obtain ⟨spent, event, member, asked⟩ := failure_handleAll_iff.mp failed
    rcases safe with reloadable | unasked
    · exact spent reloadable
    · exact unasked event member asked
  · intro before event after spent asked clear
    exact handleAll_of_failure clear asked spent
  · intro first last rest running staying leaving frames turn asks
    have loop : turn = frames.andThen close := run_eq_paced running staying leaving
    constructor
    · intro safe
      have fine : frames.failure = none := by
        refine not_not.mp fun failed => ?_
        obtain ⟨spent, asked⟩ := failure_paced_iff.mp failed
        rcases safe with reloadable | unasked
        · exact spent reloadable
        · exact unasked asked
      rw [loop]
      exact ends_close fine (muted_paced muted fine)
    · intro spent asked
      have failed : frames.failure ≠ none := failure_paced_iff.mpr ⟨spent, asked⟩
      have turned : turn = frames := loop.trans (Turn.andThen_of_failure failed)
      rw [turned]
      exact ⟨failed, rfl, open_paced files (first ++ [last]) h⟩

/-- A program that sounds the tone is loaded. As long as its file is there it may begin anew, and the
main loop ends as it should. When the file is gone, the key that is struck in front of the reset
counts and the one that is let go behind it does not, and the main loop breaks off. -/
theorem failed_reload_ends_run_beeps :
    let new : Host := { interpreter := { chance := fun _ => 0 } }
    let beeping : Path := ⟨.here, ["beep.ch8"]⟩
    let files : Files := ⟨[(["beep.ch8"], .file [0x60, 0xFF, 0xF0, 0x18, 0x12, 0x04])]⟩
    let gone : Files := ⟨[]⟩
    let reset : Event := .keyDown 1073741886
    let h := new.play [.load files beeping, .update]
    start {} (fun _ => 0) (.ok ()) = .ok { host := new } ∧
      h.Reloadable files ∧ ¬h.Reloadable gone ∧
      (handleAll files [reset, .keyUp 49] h).Reaches (h.handleEach files [reset, .keyUp 49]) ∧
      (handleAll gone [.keyDown 49, reset, .keyUp 49] h).host = h.handleEach gone [.keyDown 49] ∧
      Ends (paced files [[reset], [.quit]] h) (run files [[reset], [.quit], []] h) ∧
      BreaksOff (paced gone [[reset], [.quit]] h) (run gone [[reset], [.quit], []] h) := by
  intro new beeping files gone reset h
  have started : start {} (fun _ => 0) (.ok ()) = .ok { host := new } := rfl
  have evaluated : h.running = true ∧ (h.handle files reset).failure = none ∧
      (h.handle gone reset).failure ≠ none := by decide +kernel
  obtain ⟨running, fine, failed⟩ := evaluated
  have there : h.Reloadable files :=
    not_not.mp fun spent => failure_handle_iff.mpr ⟨rfl, spent⟩ fine
  have missing : ¬h.Reloadable gone := (failure_handle_iff.mp failed).2
  obtain ⟨all, -, ending⟩ :=
    failed_reload_ends_run started [.load files beeping, .update] files
  obtain ⟨-, front, breaking⟩ :=
    failed_reload_ends_run started [.load files beeping, .update] gone
  have staying : ∀ batch ∈ [[reset]], ∀ event ∈ batch, ¬event.Leaves := by
    simp [reset, Event.Leaves, Event.asked?, HotKey.ofCode?]
  have leaving : ∃ event ∈ [Event.quit], event.Leaves := ⟨.quit, List.mem_singleton_self _, .inl rfl⟩
  have asks : ∃ event ∈ [[reset], [Event.quit]].flatten, event.asked? = some .reset :=
    ⟨reset, List.mem_cons_self, rfl⟩
  have clear : ∀ x ∈ [Event.keyDown 49], x.asked? ≠ some .reset := by
    simp only [List.mem_singleton, forall_eq]
    decide
  exact ⟨started, there, missing, all _ (.inl there), (front _ _ _ missing rfl clear).2,
    (ending [[reset]] [.quit] [[]] running staying leaving).1 (.inl there),
    (breaking [[reset]] [.quit] [[]] running staying leaving).2 missing asks⟩

/-- A key is held down and the tone plays when the file of the program is gone. The reset loses the
release of the key that comes in the same batch, and takes the main loop down with the tone on and
the window open, although the next batch asks for the end. -/
theorem failed_reload_loses_release :
    let new : Host := { interpreter := { chance := fun _ => 0 } }
    let beeping : Path := ⟨.here, ["beep.ch8"]⟩
    let files : Files := ⟨[(["beep.ch8"], .file [0x60, 0xFF, 0xF0, 0x18, 0x12, 0x04])]⟩
    let gone : Files := ⟨[]⟩
    let reset : Event := .keyDown 1073741886
    let h := new.play [.load files beeping, .update, .handle files [.keyDown 49]]
    let lost := handleAll gone [reset, .keyUp 49] h
    let down := run gone [[reset], [.quit]] h
    start {} (fun _ => 0) (.ok ()) = .ok { host := new } ∧ h.programPath = some beeping ∧
      h.running = true ∧ lost.failure ≠ none ∧
      lost.host.pressed.contains (Nibble.ofNat 1) = true ∧
      (h.handleEach gone [reset, .keyUp 49]).pressed.contains (Nibble.ofNat 1) = false ∧
      down.failure ≠ none ∧ down.host.beeper.playing = true ∧ .close ∉ down.effects := by
  intro new beeping files gone reset h lost down
  refine ⟨rfl, ?_⟩
  decide +kernel

end Host

end Chip8
