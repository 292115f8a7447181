import Chip8.Proofs.Happenings

/-!
# Pausing

A paused host takes notice of events, but no frame of its machine runs. So it goes on after a pause
as if all events of the pause had come at once: what the keyboard does to the machine meanwhile, and
what is saved, reset and brought back, is the same with the pause and without it. The tone is taken
away by the pause and comes back with the next frame of the machine. Main statement: the frames of a
pause amount to a single frame with the same events.
-/

namespace Chip8

/-- After it was silenced the beeper can be told anything it could be told before. -/
theorem Beeper.update_update_false (b : Beeper) (active : Bool) :
    ((b.update false).1.update active).1 = (b.update active).1 := by
  obtain ⟨available, playing⟩ := b
  cases available <;> cases playing <;> cases active <;> rfl

/-- A frame leaves the same whether or not the screen was marked to be shown, but for that mark. -/
theorem Interpreter.frame_mark (i : Interpreter) (mark : Bool) (cycles : Int) :
    { (({ i with redraw := mark } : Interpreter).frame cycles).interpreter with redraw := false } =
      { (i.frame cycles).interpreter with redraw := false } := by
  let j : Interpreter := { i with redraw := mark }
  have start : Peer 0 i j := ⟨rfl, rfl, fun _ => rfl, (Nat.zero_add _).symm⟩
  obtain ⟨_, peer⟩ := (Peer.lockstep 0).frame start cycles
  have source : (j.frame cycles).interpreter.chance = (i.frame cycles).interpreter.chance :=
    (j.sameOrigin_act (.frame cycles)).2.trans (i.sameOrigin_act (.frame cycles)).2.symm
  have shown : Peer 0 { (i.frame cycles).interpreter with redraw := false }
      { (j.frame cycles).interpreter with redraw := false } :=
    ⟨peer.dialect, peer.machine, peer.chance, peer.taken⟩
  have same := shown.eq rfl
  rw [Nat.zero_add] at same
  rw [same, ← source]

namespace Event

/-- The key that pauses the host and lets it go on. -/
def pauseKey : Event := .keyDown 112

/-- No other key does. -/
theorem eq_pauseKey_of_asked {event : Event} (asked : event.asked? = some .pause) :
    event = pauseKey := by
  cases event with
  | keyDown code =>
    have known : HotKey.ofCode? code = some .pause := asked
    have unmapped : (Key.ofCode? code).map HotKey.keypad ≠ some .pause := by
      cases Key.ofCode? code with
      | none => exact (Option.some_ne_none _).symm
      | some key => exact fun same => by cases same
    have same : code = 112 := by grind [HotKey.ofCode?]
    rw [same, pauseKey]
  | keyUp code => cases asked
  | quit => cases asked
  | other => cases asked

end Event

/-! ### Turns that do not fail -/

/-- Whether a turn ends without a failure and leaves a host. -/
structure Turn.Reaches (t : Turn) (g : Host) : Prop where
  failure : t.failure = none
  host : t.host = g

namespace Turn.Reaches

variable {t : Turn} {next : Host → Turn} {g k : Host}

/-- A turn is followed by the next one. -/
theorem andThen (first : t.Reaches g) (second : (next g).Reaches k) :
    (t.andThen next).Reaches k := by
  rw [Turn.andThen, first.failure, first.host]
  exact ⟨second.failure, second.host⟩

/-- Two turns in a row are one and then the other. -/
theorem of_andThen (both : (t.andThen next).Reaches k) :
    ∃ g, t.Reaches g ∧ (next g).Reaches k := by
  rw [Turn.andThen] at both
  cases failed : t.failure with
  | some error =>
    rw [failed] at both
    cases failed.symm.trans both.failure
  | none =>
    rw [failed] at both
    exact ⟨t.host, ⟨failed, rfl⟩, both.failure, both.host⟩

end Turn.Reaches

namespace Host

variable {files : Files} {h g slow quick : Host} {event : Event}

/-! ### Several frames -/

/-- One frame for each batch of events. -/
def frames (files : Files) : List (List Event) → Host → Turn
  | [], h => { host := h }
  | events :: batches, h => (frame files events h).andThen (frames files batches)

/-- The host behind the update and the rendering of a frame. -/
def finished (h : Host) : Host :=
  h.update.host.render.host

/-- A frame ends if its events are handled. -/
theorem reaches_frame {events : List Event} (handled : (handleAll files events h).Reaches g) :
    (frame files events h).Reaches g.finished := by
  have updated : g.update.Reaches g.update.host := by
    refine ⟨?_, rfl⟩
    rw [update]
    split
    · rfl
    · rfl
  have shown : g.update.host.render.Reaches g.finished := ⟨rfl, rfl⟩
  exact (handled.andThen updated).andThen shown

/-- Frames are followed by another one. -/
theorem reaches_frames_concat {batches : List (List Event)} {events : List Event} {k : Host}
    (first : (frames files batches h).Reaches g) (last : (frame files events g).Reaches k) :
    (frames files (batches ++ [events]) h).Reaches k := by
  induction batches generalizing h with
  | nil =>
    obtain ⟨_, rfl⟩ := first
    exact last.andThen ⟨rfl, rfl⟩
  | cons batch batches ih =>
    obtain ⟨next, one, rest⟩ := first.of_andThen
    exact one.andThen (ih rest)

/-- Events in a row are some of them and then the others. -/
theorem reaches_handleAll_append {first second : List Event} {k : Host}
    (handled : (handleAll files (first ++ second) h).Reaches k) :
    ∃ g, (handleAll files first h).Reaches g ∧ (handleAll files second g).Reaches k := by
  induction first generalizing h with
  | nil => exact ⟨h, ⟨rfl, rfl⟩, handled⟩
  | cons event events ih =>
    obtain ⟨next, one, rest⟩ := handled.of_andThen
    obtain ⟨g, here, there⟩ := ih rest
    exact ⟨g, one.andThen here, there⟩

/-! ### What a pause changes -/

/-- The host with another pause, another tone and another mark on the screen. -/
def refit (h : Host) (paused : Bool) (beeper : Beeper) (mark : Bool) : Host :=
  { h with
    paused := paused
    beeper := beeper
    interpreter := { h.interpreter with redraw := mark } }

variable {paused mark : Bool} {beeper : Beeper}

/-- A program is loaded alike. -/
theorem load_refit {path : Path} (loaded : (h.load files path).Reaches g) :
    ∃ mark', ((h.refit paused beeper mark).load files path).Reaches
      (g.refit paused beeper mark') := by
  rcases load_cases files path with ⟨program, offered⟩ | ⟨error, reports, refused⟩
  · rw [load_of_offers h offered] at loaded
    obtain ⟨_, rfl⟩ := loaded
    rw [load_of_offers _ offered]
    exact ⟨true, rfl, rfl⟩
  · rw [refused h] at loaded
    cases loaded.failure

/-- A key other than the one for the pause is obeyed alike. -/
theorem obey_refit {key : HotKey} (other : key ≠ .pause) (obeyed : (h.obey files key).Reaches g) :
    ∃ mark', ((h.refit paused beeper mark).obey files key).Reaches
      (g.refit paused beeper mark') := by
  cases key with
  | pause => exact absurd rfl other
  | reset =>
    simp only [obey, reset] at obeyed ⊢
    have path : (h.refit paused beeper mark).programPath = h.programPath := rfl
    rw [path]
    cases loaded : h.programPath with
    | some path =>
      simp only [loaded] at obeyed
      exact load_refit obeyed
    | none =>
      simp only [loaded] at obeyed
      obtain ⟨_, rfl⟩ := obeyed
      exact ⟨true, rfl, rfl⟩
  | restore =>
    simp only [obey, restore] at obeyed ⊢
    have same : (h.refit paused beeper mark).saved = h.saved := rfl
    rw [same]
    cases saved : h.saved with
    | some s =>
      simp only [saved] at obeyed
      obtain ⟨_, rfl⟩ := obeyed
      exact ⟨true, rfl, rfl⟩
    | none =>
      simp only [saved] at obeyed
      obtain ⟨_, rfl⟩ := obeyed
      exact ⟨mark, rfl, rfl⟩
  | _ =>
    obtain ⟨_, rfl⟩ := obeyed
    exact ⟨mark, rfl, rfl⟩

/-- An event other than the key for the pause is handled alike, and changes neither the pause nor
the tone. -/
theorem handle_refit (other : event.asked? ≠ some .pause)
    (handled : (h.handle files event).Reaches g) :
    (∃ mark', ((h.refit paused beeper mark).handle files event).Reaches
      (g.refit paused beeper mark')) ∧ g.paused = h.paused ∧ g.beeper = h.beeper := by
  have alike : ∀ paused beeper mark, ∃ mark',
      ((h.refit paused beeper mark).handle files event).Reaches (g.refit paused beeper mark') := by
    intro paused beeper mark
    cases event with
    | keyDown code =>
      cases known : HotKey.ofCode? code with
      | none =>
        simp only [handle, known] at handled ⊢
        obtain ⟨_, rfl⟩ := handled
        exact ⟨mark, rfl, rfl⟩
      | some key =>
        simp only [handle, known] at handled ⊢
        have unpausing : key ≠ .pause := fun pausing => other (known.trans (congrArg some pausing))
        exact obey_refit unpausing handled
    | keyUp code =>
      cases known : Key.ofCode? code with
      | none =>
        simp only [handle, known] at handled ⊢
        obtain ⟨_, rfl⟩ := handled
        exact ⟨mark, rfl, rfl⟩
      | some key =>
        simp only [handle, known] at handled ⊢
        obtain ⟨_, rfl⟩ := handled
        exact ⟨mark, rfl, rfl⟩
    | _ =>
      obtain ⟨_, rfl⟩ := handled
      exact ⟨mark, rfl, rfl⟩
  -- A host is itself with its own pause and its own tone.
  obtain ⟨mark', own⟩ := alike h.paused h.beeper h.interpreter.redraw
  have same : g = g.refit h.paused h.beeper mark' := handled.host.symm.trans own.host
  have pause : g.paused = (g.refit h.paused h.beeper mark').paused := congrArg Host.paused same
  have tone : g.beeper = (g.refit h.paused h.beeper mark').beeper := congrArg Host.beeper same
  exact ⟨alike paused beeper mark, pause, tone⟩

/-- Events other than the key for the pause are handled alike. -/
theorem handleAll_refit {events : List Event} (calm : Event.pauseKey ∉ events)
    (handled : (handleAll files events h).Reaches g) :
    (∃ mark', (handleAll files events (h.refit paused beeper mark)).Reaches
      (g.refit paused beeper mark')) ∧ g.paused = h.paused ∧ g.beeper = h.beeper := by
  induction events generalizing h mark with
  | nil =>
    obtain ⟨_, rfl⟩ := handled
    exact ⟨⟨mark, rfl, rfl⟩, rfl, rfl⟩
  | cons event events ih =>
    obtain ⟨here, later⟩ := not_or.mp (mt List.mem_cons.mpr calm)
    obtain ⟨next, one, rest⟩ := handled.of_andThen
    have other : event.asked? ≠ some .pause := fun asked =>
      here (Event.eq_pauseKey_of_asked asked).symm
    obtain ⟨⟨between, first⟩, pause, tone⟩ := handle_refit other one
    obtain ⟨⟨mark', others⟩, pause', tone'⟩ := ih later rest
    exact ⟨⟨mark', first.andThen others⟩, pause'.trans pause, tone'.trans tone⟩

/-- A paused host comes out of the rest of a frame as it was, with the screen shown. -/
theorem finished_of_paused (h : Host) (beeper : Beeper) (mark : Bool) :
    (h.refit true beeper mark).finished = h.refit true beeper false := by
  rw [finished, update_of_idle (.inl rfl)]
  rfl

/-- The frames of a paused host amount to their events. -/
theorem frames_refit {batches : List (List Event)}
    (calm : ∀ batch ∈ batches, Event.pauseKey ∉ batch)
    (handled : (handleAll files batches.flatten h).Reaches g) :
    (∃ mark', (frames files batches (h.refit true beeper mark)).Reaches
      (g.refit true beeper mark')) ∧ g.paused = h.paused ∧ g.beeper = h.beeper := by
  induction batches generalizing h mark with
  | nil =>
    obtain ⟨_, rfl⟩ := handled
    exact ⟨⟨mark, rfl, rfl⟩, rfl, rfl⟩
  | cons events batches ih =>
    obtain ⟨here, later⟩ := List.forall_mem_cons.mp calm
    obtain ⟨next, one, rest⟩ := reaches_handleAll_append handled
    obtain ⟨⟨between, first⟩, pause, tone⟩ := handleAll_refit here one
    have framed := reaches_frame first
    rw [finished_of_paused] at framed
    obtain ⟨⟨mark', others⟩, pause', tone'⟩ := ih later rest
    exact ⟨⟨mark', framed.andThen others⟩, pause'.trans pause, tone'.trans tone⟩

/-! ### After the pause -/

/-- An update of a host that is not paused runs a frame of a machine that is not halted. -/
theorem host_update_of_going (going : ¬(h.paused = true ∨ h.halted = true)) :
    h.update.host = (h.framed []).host := by
  have busy : ¬(h.paused || h.interpreter.machine.isHalted) = true :=
    mt Bool.or_eq_true_iff.mp going
  rw [update, if_neg busy]
  rfl

/-- A frame of the machine leaves the same behind, and asks for the same tone. -/
theorem framed_refit : ((h.refit paused beeper mark).framed []).host.render.host =
    (h.framed []).host.render.host.refit paused
      (beeper.update (h.framed []).host.wantsTone).1 false := by
  have shown := h.interpreter.frame_mark mark h.config.cyclesPerFrame
  let fitted (i : Interpreter) : Host :=
    { h with
      interpreter := i
      paused := paused
      beeper := (beeper.update (i.machine.sound.active && !i.machine.isHalted)).1 }
  exact congrArg fitted shown

/-- The key for the pause pauses the host, with the tone off, or lets it go on. -/
theorem handle_pauseKey (h : Host) :
    (h.handle files .pauseKey).Reaches (h.refit (!h.paused)
      (if h.paused then h.beeper else (h.beeper.update false).1) h.interpreter.redraw) := by
  change h.togglePause.Reaches _
  cases before : h.paused with
  | true =>
    simp only [togglePause, before]
    exact ⟨rfl, rfl⟩
  | false =>
    simp only [togglePause, before]
    exact ⟨rfl, rfl⟩

/-- Whether a host is another one but for the mark on the screen and for the tone, which a pause may
have taken away if it is over. -/
def Matched (slow quick : Host) : Prop :=
  ∃ beeper mark, slow = quick.refit quick.paused beeper mark ∧
    (beeper = quick.beeper ∨ quick.paused = false ∧ beeper = (quick.beeper.update false).1)

namespace Matched

/-- Every event is handled alike. -/
theorem handle (matched : slow.Matched quick) (handled : (quick.handle files event).Reaches g) :
    ∃ s, (slow.handle files event).Reaches s ∧ s.Matched g := by
  obtain ⟨beeper, mark, rfl, tone⟩ := matched
  by_cases asked : event.asked? = some .pause
  · cases Event.eq_pauseKey_of_asked asked
    have one := @handle_pauseKey files quick
    cases handled.host.symm.trans one.host
    refine ⟨_, handle_pauseKey _, _, _, rfl, .inl ?_⟩
    change (if quick.paused then beeper else (beeper.update false).1) =
      if quick.paused then quick.beeper else (quick.beeper.update false).1
    rcases tone with same | ⟨going, silenced⟩
    · rw [same]
    · rw [going, silenced]
      exact quick.beeper.update_update_false false
  · obtain ⟨⟨mark', alike⟩, pause, same⟩ := handle_refit asked handled
    refine ⟨_, alike, beeper, mark', ?_, ?_⟩
    · rw [pause]
    · rw [pause, same]
      exact tone

/-- Events in a row are handled alike. -/
theorem handleAll {events : List Event} (matched : slow.Matched quick)
    (handled : (handleAll files events quick).Reaches g) :
    ∃ s, (Host.handleAll files events slow).Reaches s ∧ s.Matched g := by
  induction events generalizing slow quick with
  | nil =>
    obtain ⟨_, rfl⟩ := handled
    exact ⟨slow, ⟨rfl, rfl⟩, matched⟩
  | cons event events ih =>
    obtain ⟨next, one, rest⟩ := handled.of_andThen
    obtain ⟨between, first, here⟩ := matched.handle one
    obtain ⟨s, others, there⟩ := ih here rest
    exact ⟨s, first.andThen others, there⟩

/-- A frame ends alike, and makes up for the tone if the machine is not halted. -/
theorem finished (matched : slow.Matched quick) :
    slow.finished = { quick.finished with beeper := slow.finished.beeper } ∧
      (quick.halted = false → slow.finished.beeper = quick.finished.beeper) := by
  obtain ⟨beeper, mark, rfl, tone⟩ := matched
  by_cases resting : quick.paused = true ∨ quick.halted = true
  · have resting' : (quick.refit quick.paused beeper mark).paused = true ∨
      (quick.refit quick.paused beeper mark).halted = true := resting
    rw [Host.finished, Host.finished, update_of_idle resting, update_of_idle resting']
    refine ⟨rfl, fun running => ?_⟩
    have stopped : quick.paused = true := resting.resolve_right (by rw [running]; decide)
    refine tone.resolve_right fun ⟨going, _⟩ => ?_
    exact absurd (going.symm.trans stopped) (by decide)
  · have resting' : ¬((quick.refit quick.paused beeper mark).paused = true ∨
      (quick.refit quick.paused beeper mark).halted = true) := resting
    rw [Host.finished, Host.finished, host_update_of_going resting, host_update_of_going resting',
      framed_refit]
    refine ⟨rfl, fun _ => ?_⟩
    -- The frame asks for the tone anew, so it does not matter that the pause took it away.
    change (beeper.update (quick.framed []).host.wantsTone).1 =
      (quick.beeper.update (quick.framed []).host.wantsTone).1
    rcases tone with same | ⟨_, silenced⟩
    · rw [same]
    · rw [silenced]
      exact quick.beeper.update_update_false _

end Matched

/-- The frame in which the pause begins leaves the host paused behind its events. -/
theorem reaches_frame_pause {events : List Event} (going : h.paused = false)
    (calm : Event.pauseKey ∉ events) (handled : (handleAll files events h).Reaches g) :
    (frame files (.pauseKey :: events) h).Reaches
      (g.refit true (h.beeper.update false).1 false) ∧ g.paused = false ∧ g.beeper = h.beeper := by
  have begun : (h.handle files .pauseKey).Reaches
      (h.refit true (h.beeper.update false).1 h.interpreter.redraw) := by
    have turned := @handle_pauseKey files h
    rwa [going] at turned
  obtain ⟨⟨mark, others⟩, pause, tone⟩ := handleAll_refit calm handled
  have all : (handleAll files (.pauseKey :: events) h).Reaches _ := begun.andThen others
  have framed := reaches_frame all
  rw [finished_of_paused] at framed
  exact ⟨framed, pause.trans going, tone⟩

/-- The frame in which the pause ends matches the one that there would be without the pause. -/
theorem reaches_frame_resume {events : List Event} (going : h.paused = false)
    (handled : (handleAll files events h).Reaches g) :
    ∃ s : Host, (frame files (.pauseKey :: events)
        (h.refit true (h.beeper.update false).1 mark)).Reaches s.finished ∧ s.Matched g := by
  have ended : ((h.refit true (h.beeper.update false).1 mark).handle files .pauseKey).Reaches
      (h.refit false (h.beeper.update false).1 mark) := handle_pauseKey _
  have matched : (h.refit false (h.beeper.update false).1 mark).Matched h := by
    refine ⟨(h.beeper.update false).1, mark, ?_, .inr ⟨going, rfl⟩⟩
    rw [going]
  obtain ⟨s, others, last⟩ := matched.handleAll handled
  have all : (handleAll files (.pauseKey :: events)
      (h.refit true (h.beeper.update false).1 mark)).Reaches s := ended.andThen others
  exact ⟨s, reaches_frame all, last⟩

/-- A pause that begins with the events of one frame and ends before those of another one amounts to
a single frame with all events, if none of them fails: nothing but the tone is different, and the
tone only if the machine is halted when the frame of the machine is due. -/
theorem pause_transparent (going : h.paused = false) (first : List Event)
    (more : List (List Event)) (last : List Event)
    (calm : ∀ batch ∈ first :: more, Event.pauseKey ∉ batch)
    (handled : (handleAll files ((first :: more).flatten ++ last) h).failure = none) :
    let slow := frames files ((.pauseKey :: first) :: more ++ [.pauseKey :: last]) h
    let quick := frame files ((first :: more).flatten ++ last) h
    slow.failure = none ∧ quick.failure = none ∧
      slow.host = { quick.host with beeper := slow.host.beeper } ∧
      ((handleAll files ((first :: more).flatten ++ last) h).host.halted = false →
        slow.host.beeper = quick.host.beeper) := by
  intro slow quick
  have all : (handleAll files ((first :: more).flatten ++ last) h).Reaches _ := ⟨handled, rfl⟩
  obtain ⟨g, during, behind⟩ := reaches_handleAll_append all
  obtain ⟨next, begin, between⟩ := reaches_handleAll_append during
  obtain ⟨calm_first, calm_more⟩ := List.forall_mem_cons.mp calm
  obtain ⟨framed, pause, tone⟩ := reaches_frame_pause going calm_first begin
  obtain ⟨⟨mark, paused⟩, pause', tone'⟩ := frames_refit calm_more between
  have unpaused : g.paused = false := pause'.trans pause
  have same : g.beeper = h.beeper := tone'.trans tone
  obtain ⟨s, resumed, matched⟩ := reaches_frame_resume unpaused behind
  rw [same] at resumed
  have slowly : slow.Reaches s.finished := framed.andThen (reaches_frames_concat paused resumed)
  have quickly : quick.Reaches _ := reaches_frame all
  obtain ⟨rest, tones⟩ := matched.finished
  rw [slowly.host, quickly.host]
  exact ⟨slowly.failure, quickly.failure, rest, tones⟩

/-- The tone plays when the host pauses. In the pause a key goes down, a snapshot is taken, the
program begins anew and another key goes down; behind it that key goes up and the snapshot comes
back. The tone plays again as if there had been no pause. -/
theorem pause_transparent_beeps :
    let beeping : Path := ⟨.here, ["beep.ch8"]⟩
    let files : Files := ⟨[(["beep.ch8"], .file [0x60, 0xFF, 0xF0, 0x18, 0x12, 0x04])]⟩
    let new : Host := { interpreter := { chance := fun _ => 0 } }
    let h := new.play [.load files beeping, .update]
    let first : List Event := [.keyDown 49, .keyDown 1073741887]
    let more : List (List Event) := [[], [.keyDown 1073741886], [.keyDown 50]]
    let last : List Event := [.keyUp 50, .keyDown 1073741888]
    let slow := frames files ((.pauseKey :: first) :: more ++ [.pauseKey :: last]) h
    let quick := frame files ((first :: more).flatten ++ last) h
    start {} (fun _ => 0) (.ok ()) = .ok { host := new } ∧ h.paused = false ∧
      h.beeper.playing = true ∧ slow.failure = none ∧
      slow.host = { quick.host with beeper := slow.host.beeper } ∧
      slow.host.beeper = quick.host.beeper ∧ quick.host.beeper.playing = true := by
  intro beeping files new h first more last slow quick
  have evaluated : h.paused = false ∧ h.beeper.playing = true ∧
      (handleAll files ((first :: more).flatten ++ last) h).failure = none ∧
      (handleAll files ((first :: more).flatten ++ last) h).host.halted = false ∧
      quick.host.beeper.playing = true := by decide +kernel
  have calm : ∀ batch ∈ first :: more, Event.pauseKey ∉ batch := by decide
  obtain ⟨going, before, handled, running, after⟩ := evaluated
  obtain ⟨ended, _, rest, tones⟩ := pause_transparent going first more last calm handled
  exact ⟨rfl, going, before, ended, rest, tones running, after⟩

end Host

end Chip8
