import Chip8.Proofs.HostRun
import Chip8.Proofs.Loading

/-!
# What happens to a host

Every single thing that happens to a host, said once with all that it comes to: the host afterwards,
the effects, and the failure if there is one. Main statements: whatever happens is one of these
cases, and a run keeps the machine of the host, and the one in its snapshot, sound.
-/

namespace Chip8

namespace Event

/-- What an event asks of the host, if it is a key that goes down. -/
def asked? : Event → Option HotKey
  | .keyDown code => HotKey.ofCode? code
  | _ => none

/-- The key of the keypad that goes up. -/
def freed? : Event → Option Key
  | .keyUp code => Key.ofCode? code
  | _ => none

/-- Whether an event asks for nothing but the end, the overlay, or nothing at all. -/
def Bystands (event : Event) : Prop :=
  (event.asked? = none ∨ event.asked? = some .leave ∨ event.asked? = some .overlay) ∧
    event.freed? = none

/-- An event that asks for something frees no key. -/
theorem freed?_of_asked {event : Event} {key : HotKey} (asked : event.asked? = some key) :
    event.freed? = none := by
  cases event with
  | keyDown code => rfl
  | keyUp code => cases asked
  | quit => rfl
  | other => rfl

end Event

namespace Happening

/-- What is asked of the host, if a key goes down. -/
def asked? : Happening → Option HotKey
  | .event _ e => e.asked?
  | _ => none

/-- The key of the keypad that goes up. -/
def freed? : Happening → Option Key
  | .event _ e => e.freed?
  | _ => none

end Happening

namespace Host

/-- Whether what happens asks for the program at a path: a load does, and the key that begins
anew. -/
inductive AsksFor (h : Host) (files : Files) (path : Path) : Happening → Prop
  | load : AsksFor h files path (.load files path)
  | reset (event : Event) (asked : event.asked? = some .reset)
      (loaded : h.programPath = some path) : AsksFor h files path (.event files event)

/-- A key that asks for something is obeyed. -/
theorem handle_of_asked {h : Host} {files : Files} {event : Event} {key : HotKey}
    (asked : event.asked? = some key) : h.handle files event = h.obey files key := by
  cases event with
  | keyDown code =>
    have known : HotKey.ofCode? code = some key := asked
    simp only [handle, known]
  | keyUp code => cases asked
  | quit => cases asked
  | other => cases asked

/-- What asks for a program is answered by a load. -/
theorem AsksFor.meet {h : Host} {files : Files} {path : Path} {x : Happening}
    (asks : h.AsksFor files path x) : h.meet x = h.load files path := by
  cases asks with
  | load => rfl
  | reset event asked loaded =>
    rw [Host.meet, handle_of_asked asked]
    simp only [Host.obey, Host.reset, loaded]

/-- The turn of a frame of the machine; `crash` are the effects of a fault. -/
def framed (h : Host) (crash : List Effect) : Turn :=
  let o := h.interpreter.frame h.config.cyclesPerFrame
  let next := { h with interpreter := o.interpreter }
  let (beeper, calls) := h.beeper.update next.wantsTone
  { host := { next with beeper := beeper }, effects := reported o.reports ++ crash ++ calls }

/-- What a thing that happens to a host comes to. -/
inductive Happened (h : Host) : Happening → Turn → Prop
  /-- A program begins. -/
  | loaded {x : Happening} {files : Files} {path : Path} {program : List UInt8}
      (asked : h.AsksFor files path x) (offered : files.Offers path program) :
      Happened h x {
        host := h.withProgram path program
        effects := reported [.fileRead program.length path.text, .reset,
          .programLoaded program.length] ++ [(h.withProgram path program).setCaption ""] }
  /-- There is no program to begin. -/
  | refused {x : Happening} {files : Files} {path : Path} (asked : h.AsksFor files path x)
      (error : LoadError) (reports : List Report) :
      Happened h x { failure := some error, host := h, effects := reported reports }
  /-- The machine begins anew without a program. -/
  | reset {files : Files} {event : Event} (asked : event.asked? = some .reset)
      (empty : h.programPath = none) :
      Happened h (.event files event) {
        host := { h with interpreter := h.interpreter.replaceMachine Machine.initial }
        effects := reported [.reset] }
  /-- The machine of the snapshot comes back. -/
  | restored {files : Files} {event : Event} {s : Snapshot}
      (asked : event.asked? = some .restore) (saved : h.saved = some s) :
      Happened h (.event files event) {
        host := { h with
          interpreter := h.interpreter.replaceMachine
            (Interpreter.resumed s h.interpreter.machine.keypad) }
        effects := reported [.restored s.machine.registers.pc] ++ [h.setCaption ""] }
  /-- There is no snapshot to come back to. -/
  | unsaved {files : Files} {event : Event} (asked : event.asked? = some .restore)
      (empty : h.saved = none) :
      Happened h (.event files event) { host := h, effects := reported [.noSnapshot] }
  /-- A snapshot is taken. -/
  | saved {files : Files} {event : Event} (asked : event.asked? = some .save) :
      Happened h (.event files event) {
        host := { h with saved := some h.interpreter.snapshot }
        effects := reported [.snapshotSaved] }
  /-- The host pauses, with the tone off. -/
  | paused {files : Files} {event : Event} (asked : event.asked? = some .pause)
      (going : h.paused = false) :
      Happened h (.event files event) {
        host := { h with paused := true, beeper := (h.beeper.update false).1 }
        effects := (h.beeper.update false).2 ++ [h.setCaption "Paused"] }
  /-- The host goes on after a pause. -/
  | resumed {files : Files} {event : Event} (asked : event.asked? = some .pause)
      (stopped : h.paused = true) :
      Happened h (.event files event) {
        host := { h with paused := false }
        effects := [h.setCaption ""] }
  /-- A key of the keypad goes down. -/
  | struck {files : Files} {event : Event} {key : Key} (asked : event.asked? = some (.keypad key)) :
      Happened h (.event files event) {
        host := { h with interpreter := h.interpreter.onMachine fun m => m.keyDown key.val } }
  /-- A key of the keypad goes up. -/
  | freed {files : Files} {event : Event} {key : Key} (up : event.freed? = some key) :
      Happened h (.event files event) {
        host := { h with interpreter := h.interpreter.onMachine fun m => m.keyUp key.val } }
  /-- Nothing is asked of the machine. -/
  | beside {files : Files} {event : Event} (bystands : event.Bystands) (running overlay : Bool) :
      Happened h (.event files event) {
        host := { h with running := running, overlay := overlay } }
  /-- A paused host and a halted machine have no frame. -/
  | idle (resting : h.paused = true ∨ h.halted = true) : Happened h .update { host := h }
  /-- A frame of the machine runs to its end. -/
  | ran {doing : RunState} (going : h.paused = false) (running : h.halted = false)
      (answer : (h.interpreter.frame h.config.cyclesPerFrame).answer = .ok doing) :
      Happened h .update (h.framed [])
  /-- A frame of the machine ends in a fault. -/
  | crashed {fault : Fault} (going : h.paused = false) (running : h.halted = false)
      (answer : (h.interpreter.frame h.config.cyclesPerFrame).answer = .error fault) :
      Happened h .update (h.framed [h.setCaption s!"Halted: {fault.message}",
        .report (.crashed
          (h.interpreter.frame h.config.cyclesPerFrame).interpreter.machine.status)])
  /-- The screen is shown. -/
  | shown : Happened h .render {
      host := { h with interpreter := { h.interpreter with redraw := false } } }

namespace Happened

variable {h : Host} {files : Files}

/-- Loading a program. -/
theorem load {x : Happening} {path : Path} (asked : h.AsksFor files path x) :
    Happened h x (h.load files path) := by
  rcases load_cases files path with ⟨program, offered⟩ | ⟨error, reports, refused⟩
  · rw [h.load_of_offers offered]
    exact .loaded asked offered
  · rw [refused]
    exact .refused asked error reports

/-- Pausing and going on. -/
theorem togglePause {event : Event} (asked : event.asked? = some .pause) :
    Happened h (.event files event) h.togglePause := by
  cases before : h.paused with
  | true =>
    have turn : h.togglePause =
        { host := { h with paused := false }, effects := [h.setCaption ""] } := by
      simp only [Host.togglePause, before]
      rfl
    rw [turn]
    exact .resumed asked before
  | false =>
    have turn : h.togglePause = {
        host := { h with paused := true, beeper := (h.beeper.update false).1 }
        effects := (h.beeper.update false).2 ++ [h.setCaption "Paused"] } := by
      simp only [Host.togglePause, before]
      rfl
    rw [turn]
    exact .paused asked before

/-- Beginning anew. -/
theorem beginAnew {event : Event} (asked : event.asked? = some .reset) :
    Happened h (.event files event) (h.reset files) := by
  cases loaded : h.programPath with
  | some path =>
    have turn : h.reset files = h.load files path := by simp only [Host.reset, loaded]
    rw [turn]
    exact load (.reset event asked loaded)
  | none =>
    have turn : h.reset files = {
        host := { h with interpreter := h.interpreter.replaceMachine Machine.initial }
        effects := reported [.reset] } := by
      simp only [Host.reset, loaded]
      rfl
    rw [turn]
    exact .reset asked loaded

/-- Coming back to the snapshot. -/
theorem comeBack {event : Event} (asked : event.asked? = some .restore) :
    Happened h (.event files event) h.restore := by
  cases saved : h.saved with
  | none =>
    have turn : h.restore = { host := h, effects := reported [.noSnapshot] } := by
      simp only [Host.restore, saved]
      rfl
    rw [turn]
    exact .unsaved asked saved
  | some s =>
    have turn : h.restore = {
        host := { h with
          interpreter := h.interpreter.replaceMachine
            (Interpreter.resumed s h.interpreter.machine.keypad) }
        effects := reported [.restored s.machine.registers.pc] ++ [h.setCaption ""] } := by
      simp only [Host.restore, saved]
      rfl
    rw [turn]
    exact .restored asked saved

/-- A key that goes down. -/
theorem obey {event : Event} {key : HotKey} (asked : event.asked? = some key)
    (down : event.freed? = none) : Happened h (.event files event) (h.obey files key) := by
  cases key with
  | pause => exact togglePause asked
  | reset => exact beginAnew asked
  | restore => exact comeBack asked
  | save => exact .saved asked
  | keypad key => exact .struck asked
  | leave => exact .beside ⟨.inr (.inl asked), down⟩ false h.overlay
  | overlay => exact .beside ⟨.inr (.inr asked), down⟩ h.running (!h.overlay)

/-- An update. -/
theorem update : Happened h .update h.update := by
  by_cases resting : h.paused = true ∨ h.halted = true
  · rw [update_of_idle resting]
    exact .idle resting
  · obtain ⟨going, running⟩ := not_or.mp resting
    rw [Bool.not_eq_true] at going running
    have busy : ¬(h.paused || h.interpreter.machine.isHalted) = true :=
      mt Bool.or_eq_true_iff.mp resting
    rw [Host.update, if_neg busy]
    cases answer : (h.interpreter.frame h.config.cyclesPerFrame).answer with
    | error fault =>
      simp only [answer]
      exact .crashed going running answer
    | ok doing =>
      simp only [answer]
      exact .ran going running answer

end Happened

/-- Whatever happens to a host is one of these. -/
theorem happened (h : Host) (x : Happening) : Happened h x (h.meet x) := by
  cases x with
  | load files path => exact .load .load
  | update => exact .update
  | render => exact .shown
  | event files event =>
    cases event with
    | keyDown code =>
      cases known : HotKey.ofCode? code with
      | none =>
        have turn : h.handle files (.keyDown code) = { host := h } := by simp only [handle, known]
        have bystands : (Event.keyDown code).Bystands := ⟨.inl known, rfl⟩
        rw [meet, turn]
        exact .beside bystands h.running h.overlay
      | some key =>
        have turn : h.handle files (.keyDown code) = h.obey files key := handle_of_asked known
        rw [meet, turn]
        exact .obey known rfl
    | keyUp code =>
      cases known : Key.ofCode? code with
      | none =>
        have turn : h.handle files (.keyUp code) = { host := h } := by simp only [handle, known]
        have bystands : (Event.keyUp code).Bystands := ⟨.inl rfl, known⟩
        rw [meet, turn]
        exact .beside bystands h.running h.overlay
      | some key =>
        have turn : h.handle files (.keyUp code) = h.onMachine fun m => m.keyUp key.val := by
          simp only [handle, known]
        rw [meet, turn]
        exact .freed known
    | quit => exact .beside ⟨.inl rfl, rfl⟩ false h.overlay
    | other => exact .beside ⟨.inl rfl, rfl⟩ h.running h.overlay

/-! ### Sound machines -/

/-- A host with a sound machine, and with a sound one in its snapshot. -/
structure Sound (h : Host) : Prop where
  machine : h.interpreter.machine.Sound
  saved : ∀ s, h.saved = some s → s.machine.Sound

/-- Whatever happens leaves a sound host sound. -/
theorem Sound.meet {h : Host} (sound : h.Sound) (x : Happening) : (h.meet x).host.Sound := by
  have happened := h.happened x
  generalize h.meet x = turn at happened
  cases happened with
  | loaded asked offered => exact ⟨Machine.sound_fresh _, sound.saved⟩
  | reset asked empty => exact ⟨Machine.sound_initial, sound.saved⟩
  | restored asked saved =>
    exact ⟨(sound.saved _ saved).resumed sound.machine.keypad, sound.saved⟩
  | saved asked =>
    refine ⟨sound.machine, fun s taken => ?_⟩
    cases taken
    exact sound.machine
  | struck asked =>
    exact ⟨h.interpreter.sound_act (.keyDown _) sound.machine, sound.saved⟩
  | freed up => exact ⟨h.interpreter.sound_act (.keyUp _) sound.machine, sound.saved⟩
  | ran going running answer =>
    exact ⟨h.interpreter.sound_act (.frame _) sound.machine, sound.saved⟩
  | crashed going running answer =>
    exact ⟨h.interpreter.sound_act (.frame _) sound.machine, sound.saved⟩
  | refused asked error reports => exact sound
  | unsaved asked empty => exact sound
  | paused asked going => exact ⟨sound.machine, sound.saved⟩
  | resumed asked stopped => exact ⟨sound.machine, sound.saved⟩
  | beside bystands running overlay => exact ⟨sound.machine, sound.saved⟩
  | idle resting => exact sound
  | shown => exact ⟨sound.machine, sound.saved⟩

/-- A host that has just been started is sound. -/
theorem sound_start {config : Config} {chance : Nat → UInt8} {device : Except String Unit}
    {t : Turn} (started : start config chance device = .ok t) : t.host.Sound := by
  rw [start] at started
  split at started
  · cases started
  · cases started
  · cases started
    exact ⟨Machine.sound_initial, fun s saved => by cases saved⟩

/-- A host that has just been started plays nothing, and has told nothing but that there will be no
sound, if there will be none. -/
theorem start_quiet {config : Config} {chance : Nat → UInt8} {device : Except String Unit}
    {t : Turn} (started : start config chance device = .ok t) :
    t.host.beeper.playing = false ∧
      (t.effects = [] ∨ ∃ reason, t.effects = [.report (.audioDisabled reason)]) := by
  rw [start] at started
  split at started
  · cases started
  · cases started
  · rename_i beeper effects audible
    cases started
    cases device with
    | error reason =>
      cases audible
      exact ⟨rfl, .inr ⟨reason, rfl⟩⟩
    | ok =>
      rw [Beeper.start] at audible
      obtain ⟨tone, -, silent⟩ := ok_of_map_ok audible
      cases silent
      exact ⟨rfl, .inl rfl⟩

/-- Every run of a sound host leaves it sound. -/
theorem Sound.play {h : Host} (sound : h.Sound) (calls : List HostCall) : (h.play calls).Sound :=
  have kept : Kept fun _ g => g.Sound := fun _ _ x holds => holds.meet x
  @Kept.play _ [] _ kept calls sound

end Host

end Chip8
