import Chip8.Proofs.Frame
import Chip8.Proofs.Happenings

/-!
# The keypad and the keyboard

The keypad of the machine shows which keys of the keyboard are down, as far as the host has seen it
since the machine was replaced. Neither a frame of the machine, whatever it waits for, nor a pause,
a fault or a snapshot moves a key. Main statement: a key of the keypad is down exactly when its code
went down and has not gone up since, and no program was loaded and no reset made since.
-/

namespace Chip8

/-! ### The layout -/

/-- What a code stands for is found in the layout. -/
theorem mem_keyLayout {code : Int} {key : Key} (known : Key.ofCode? code = some key) :
    (code, key) ∈ keyLayout := by
  obtain ⟨before, after, parts, _⟩ := List.lookup_eq_some_iff.mp known
  rw [parts]
  exact List.mem_append_right _ List.mem_cons_self

/-- No two codes stand for the same key. -/
theorem Key.ofCode?_inj {code code' : Int} {key : Key} (known : Key.ofCode? code = some key)
    (known' : Key.ofCode? code' = some key) : code = code' := by
  have distinct : ∀ p ∈ keyLayout, ∀ q ∈ keyLayout, p.2 = q.2 → p.1 = q.1 := by decide
  exact distinct _ (mem_keyLayout known) _ (mem_keyLayout known') rfl

/-- A code stands for a key of the keypad, or it commands the host, or neither, but never both. -/
theorem HotKey.ofCode?_eq_keypad_iff {code : Int} {key : Key} :
    HotKey.ofCode? code = some (.keypad key) ↔ Key.ofCode? code = some key := by
  constructor
  · intro asked
    have mapped : (Key.ofCode? code).map HotKey.keypad = some (.keypad key) := by
      grind [HotKey.ofCode?]
    obtain ⟨found, known, same⟩ := Option.map_eq_some_iff.mp mapped
    cases same
    exact known
  · intro known
    have unshadowed : ∀ p ∈ keyLayout, HotKey.ofCode? p.1 = some (.keypad p.2) := by decide
    exact unshadowed _ (mem_keyLayout known)

/-! ### Keys that are held down -/

namespace Happening

/-- Whether what happens puts a new machine in place of the present one: a load of a program that is
there, or the key that begins anew. -/
def Renews : Happening → Prop
  | .load files path => ∃ program, files.Offers path program
  | .event _ e => e.asked? = some .reset
  | _ => False

/-- Whether a key is held down behind what has happened: its code went down, and since then it has
not gone up and the machine was not renewed. -/
def Holds (past : List Happening) (key : Key) : Prop :=
  ∃ before files code after, past = before ++ .event files (.keyDown code) :: after ∧
    Key.ofCode? code = some key ∧
    ∀ x ∈ after, ¬x.Renews ∧ ∀ files', x ≠ .event files' (.keyUp code)

variable {past : List Happening} {x : Happening} {key : Key}

/-- Nothing is held down at the beginning. -/
theorem not_holds_nil (key : Key) : ¬Holds [] key := by
  rintro ⟨before, files, code, after, parts, _⟩
  exact absurd parts.symm (List.append_ne_nil_of_right_ne_nil _ (List.cons_ne_nil _ _))

/-- A key that goes down is held down. -/
theorem holds_of_asked (asked : x.asked? = some (.keypad key)) : Holds (past ++ [x]) key := by
  cases x with
  | event files event =>
    cases event with
    | keyDown code =>
      have known := HotKey.ofCode?_eq_keypad_iff.mp asked
      exact ⟨past, files, code, [], rfl, known, List.forall_mem_nil _⟩
    | keyUp code => cases asked
    | quit => cases asked
    | other => cases asked
  | load files path => cases asked
  | update => cases asked
  | render => cases asked

/-- A key goes up when its code does, and only then. -/
theorem freed?_eq_some_iff {code : Int} (known : Key.ofCode? code = some key) :
    x.freed? = some key ↔ ∃ files, x = .event files (.keyUp code) := by
  constructor
  · intro freed
    cases x with
    | event files event =>
      cases event with
      | keyUp code' =>
        cases Key.ofCode?_inj known freed
        exact ⟨files, rfl⟩
      | keyDown code => cases freed
      | quit => cases freed
      | other => cases freed
    | load files path => cases freed
    | update => cases freed
    | render => cases freed
  · rintro ⟨files, rfl⟩
    exact known

/-- What happens last holds a key down that goes down, and the keys that were held down before
unless it frees them or renews the machine. -/
theorem holds_concat_iff : Holds (past ++ [x]) key ↔
    x.asked? = some (.keypad key) ∨ Holds past key ∧ ¬x.Renews ∧ x.freed? ≠ some key := by
  constructor
  · rintro ⟨before, files, code, after, parts, known, later⟩
    -- Either the code went down just now, or the last thing that happened lies behind that.
    rcases snoc_eq_parts_iff.mp parts with ⟨rfl, rfl, rfl⟩ | ⟨after, rfl, rfl⟩
    · exact .inl (HotKey.ofCode?_eq_keypad_iff.mpr known)
    · obtain ⟨keeps, down⟩ := later x (List.mem_append_right _ List.mem_cons_self)
      refine .inr ⟨⟨before, files, code, after, rfl, known, fun y member => ?_⟩, keeps, ?_⟩
      · exact later y (List.mem_append_left _ member)
      · intro freed
        obtain ⟨files', up⟩ := (freed?_eq_some_iff known).mp freed
        exact down files' up
  · rintro (asked | ⟨⟨before, files, code, after, rfl, known, later⟩, keeps, down⟩)
    · exact holds_of_asked asked
    · refine ⟨before, files, code, after ++ [x], by simp, known, fun y member => ?_⟩
      rcases List.mem_append.mp member with earlier | last
      · exact later y earlier
      · cases List.mem_singleton.mp last
        exact ⟨keeps, fun files' up => down ((freed?_eq_some_iff known).mpr ⟨files', up⟩)⟩

end Happening

/-! ### What moves a key -/

namespace Interpreter

/-- No step moves a key. -/
theorem pressed_step (i : Interpreter) :
    i.step.interpreter.machine.keypad.pressed = i.machine.keypad.pressed := by
  have amounts := i.stepped
  generalize i.step.answer = answer, i.step.interpreter = next at amounts
  cases amounts with
  | executed w instruction next running seen ran =>
    obtain ⟨machine, done, rfl⟩ := ok_of_map_ok ran
    exact (Machine.executed done).pressed
  | _ => rfl

/-- A machine that comes back has the keys down that are down now. -/
theorem pressed_resumed (s : Snapshot) (keypad : Keypad) :
    (resumed s keypad).keypad.pressed = keypad.pressed := by
  rw [resumed]
  split
  · rfl
  · rfl

/-- No frame moves a key. -/
theorem pressed_frame (i : Interpreter) (cycles : Int) :
    (i.frame cycles).interpreter.machine.keypad.pressed = i.machine.keypad.pressed :=
  frame_keeps (P := fun j => j.machine.keypad.pressed = i.machine.keypad.pressed)
    (fun j same => j.pressed_step.trans same) (fun _ same => same) cycles i rfl

end Interpreter

namespace Host

/-- The keys of the keypad that are down. -/
def pressed (h : Host) : KeySet :=
  h.interpreter.machine.keypad.pressed

/-- What a thing that happens makes of the keys: they are down if they go down, or if they were down
and neither go up nor are lost with the machine. -/
def Moves (h : Host) (x : Happening) (turn : Turn) : Prop :=
  ∀ key, turn.host.pressed.contains key = true ↔
    x.asked? = some (.keypad key) ∨
      h.pressed.contains key = true ∧ ¬x.Renews ∧ x.freed? ≠ some key

namespace Moves

variable {h : Host} {x : Happening} {turn : Turn}

/-- A machine that is renewed has no key down. -/
theorem of_renewed (renews : x.Renews) (unmapped : ∀ key, x.asked? ≠ some (.keypad key))
    (none : turn.host.pressed = {}) : h.Moves x turn := by
  intro key
  rw [none, KeySet.contains_empty]
  refine ⟨fun pressed => absurd pressed Bool.false_ne_true, ?_⟩
  rintro (asked | ⟨_, keeps, _⟩)
  · exact absurd asked (unmapped key)
  · exact absurd renews keeps

/-- What neither strikes nor frees a key nor renews the machine leaves all keys. -/
theorem of_still (keeps : ¬x.Renews) (unmapped : ∀ key, x.asked? ≠ some (.keypad key))
    (down : x.freed? = none) (same : turn.host.pressed = h.pressed) : h.Moves x turn := by
  intro key
  rw [same]
  have kept : x.freed? ≠ some key := by
    rw [down]
    exact (Option.some_ne_none key).symm
  refine ⟨fun pressed => .inr ⟨pressed, keeps, kept⟩, ?_⟩
  rintro (asked | ⟨pressed, _⟩)
  · exact absurd asked (unmapped key)
  · exact pressed

/-- The commands for the pause and for snapshots leave all keys. -/
theorem of_command {files : Files} {event : Event} {command : HotKey}
    (asked : event.asked? = some command) (plain : command ∈ [HotKey.pause, .save, .restore])
    (same : turn.host.pressed = h.pressed) : h.Moves (.event files event) turn := by
  have keeps : ¬(Happening.event files event).Renews := by
    intro renews
    cases Option.some.inj (asked.symm.trans renews)
    exact absurd plain (by decide)
  have unmapped : ∀ key, (Happening.event files event).asked? ≠ some (.keypad key) := by
    intro key mapped
    cases Option.some.inj (asked.symm.trans mapped)
    simp only [List.mem_cons, List.not_mem_nil, reduceCtorEq, or_self] at plain
  exact of_still keeps unmapped (Event.freed?_of_asked asked) same

/-- A key that goes down is down, and the others stay. -/
theorem of_struck {files : Files} {event : Event} {struck : Key}
    (asked : event.asked? = some (.keypad struck)) :
    h.Moves (.event files event) (h.onMachine fun m => m.keyDown struck.val) := by
  intro key
  have keeps : ¬(Happening.event files event).Renews := fun renews => by
    cases asked.symm.trans renews
  have down : (Happening.event files event).freed? = none := Event.freed?_of_asked asked
  have mapped : (Happening.event files event).asked? = some (.keypad key) ↔ struck = key := by
    change event.asked? = _ ↔ _
    rw [asked, Option.some.injEq, HotKey.keypad.injEq]
  change (h.interpreter.machine.keypad.press struck.val).pressed.contains key = true ↔ _
  rw [Keypad.pressed_press, mapped, down, Bool.or_eq_true_iff, decide_eq_true_iff, Key.int_inj]
  simp only [keeps, pressed, not_false_eq_true, ne_eq, reduceCtorEq, and_true, or_comm]

/-- A key that goes up is down no longer, and the others stay. -/
theorem of_freed {files : Files} {event : Event} {freed : Key} (up : event.freed? = some freed) :
    h.Moves (.event files event) (h.onMachine fun m => m.keyUp freed.val) := by
  intro key
  have silent : event.asked? = none := by
    cases asked : event.asked? with
    | none => rfl
    | some command => cases up.symm.trans (Event.freed?_of_asked asked)
  have keeps : ¬(Happening.event files event).Renews := fun renews => by
    cases silent.symm.trans renews
  have unmapped : (Happening.event files event).asked? ≠ some (.keypad key) := fun mapped => by
    cases silent.symm.trans mapped
  have down : (Happening.event files event).freed? = some key ↔ freed = key := by
    change event.freed? = _ ↔ _
    rw [up, Option.some.injEq]
  change (h.interpreter.machine.keypad.release freed.val).pressed.contains key = true ↔ _
  rw [Keypad.pressed_release, ne_eq, down, Bool.and_eq_true_iff, Bool.not_eq_true',
    decide_eq_false_iff_not, Key.int_inj]
  simp only [keeps, unmapped, pressed, not_false_eq_true, true_and, false_or]

/-- What asks nothing of the machine leaves all keys. -/
theorem of_bystands {files : Files} {event : Event} (bystands : event.Bystands)
    (same : turn.host.pressed = h.pressed) : h.Moves (.event files event) turn := by
  obtain ⟨asked, down⟩ := bystands
  have keeps : event.asked? ≠ some .reset := by
    rcases asked with asked | asked | asked
    all_goals exact fun renews => by cases asked.symm.trans renews
  have unmapped : ∀ key, event.asked? ≠ some (.keypad key) := by
    rcases asked with asked | asked | asked
    all_goals exact fun key mapped => by cases asked.symm.trans mapped
  exact of_still keeps unmapped down same

end Moves

/-- Whatever happens moves the keys alike, if the reset succeeds that it may ask for. -/
theorem moves (h : Host) (x : Happening)
    (reload : x.asked? = some .reset → (h.meet x).failure = none) : h.Moves x (h.meet x) := by
  have happened := h.happened x
  generalize outcome : h.meet x = turn at happened reload
  cases happened with
  | loaded asked offered =>
    cases asked with
    | load => exact .of_renewed ⟨_, offered⟩ (fun _ => (Option.some_ne_none _).symm) rfl
    | reset event asked loaded =>
      refine .of_renewed asked (fun key mapped => ?_) rfl
      cases asked.symm.trans mapped
  | @refused _ files path asked error reports =>
    cases asked with
    | load =>
      refine .of_still ?_ (fun _ => (Option.some_ne_none _).symm) rfl rfl
      rintro ⟨program, offered⟩
      rw [meet, h.load_of_offers offered] at outcome
      cases outcome
    | reset event asked loaded => cases reload asked
  | reset asked empty =>
    refine .of_renewed asked (fun key mapped => ?_) rfl
    cases asked.symm.trans mapped
  | restored asked saved =>
    exact .of_command asked (by decide) (Interpreter.pressed_resumed _ h.interpreter.machine.keypad)
  | unsaved asked empty => exact .of_command asked (by decide) rfl
  | saved asked => exact .of_command asked (by decide) rfl
  | paused asked going => exact .of_command asked (by decide) rfl
  | resumed asked stopped => exact .of_command asked (by decide) rfl
  | struck asked => exact .of_struck asked
  | freed up => exact .of_freed up
  | beside bystands running overlay => exact .of_bystands bystands rfl
  | idle resting => exact .of_still not_false (fun _ => (Option.some_ne_none _).symm) rfl rfl
  | ran going running answer =>
    refine .of_still not_false (fun _ => (Option.some_ne_none _).symm) rfl ?_
    exact h.interpreter.pressed_frame _
  | crashed going running answer =>
    refine .of_still not_false (fun _ => (Option.some_ne_none _).symm) rfl ?_
    exact h.interpreter.pressed_frame _
  | shown => exact .of_still not_false (fun _ => (Option.some_ne_none _).symm) rfl rfl

/-- The key that brings the snapshot back moves no key of the keypad. -/
theorem pressed_handle_restore (h : Host) {files : Files} {event : Event}
    (asked : event.asked? = some .restore) : (h.handle files event).host.pressed = h.pressed := by
  have keeps : ¬(Happening.event files event).Renews := fun renews => by
    cases asked.symm.trans renews
  have moved := h.moves (.event files event) fun reset => absurd reset keeps
  have down : (Happening.event files event).freed? = none := Event.freed?_of_asked asked
  refine KeySet.ext fun key => Bool.eq_iff_iff.mpr ((moved key).trans ?_)
  have unmapped : (Happening.event files event).asked? ≠ some (.keypad key) := fun mapped => by
    cases asked.symm.trans mapped
  rw [down]
  simp only [unmapped, keeps, not_false_eq_true, ne_eq, reduceCtorEq, and_true, false_or]

/-! ### Runs -/

/-- Whether every reset that is asked for succeeds. -/
def Reloads (past : List (Host × Happening)) : Prop :=
  ∀ p ∈ past, p.2.asked? = some .reset → (p.1.meet p.2).failure = none

/-- As long as every reset succeeds, the keys that are down are those that are held down. -/
theorem kept_held : Kept fun past h => Reloads past → ∀ key,
    h.pressed.contains key = true ↔ Happening.Holds (past.map Prod.snd) key := by
  intro past h x holds reloads key
  obtain ⟨earlier, last⟩ := List.forall_mem_append.mp reloads
  have reload := last (h, x) List.mem_cons_self
  rw [List.map_append, List.map_singleton, Happening.holds_concat_iff, h.moves x reload key,
    holds earlier key]

/-- Only a reset can fail among the events. -/
theorem asked_of_failure {h : Host} {files : Files} {event : Event}
    (failed : (h.handle files event).failure ≠ none) : event.asked? = some .reset := by
  have happened := h.happened (.event files event)
  change Happened h _ (h.handle files event) at happened
  generalize h.handle files event = turn at happened failed
  cases happened with
  | refused asked error reports =>
    cases asked with
    | reset event asked loaded => exact asked
  | _ => exact absurd rfl failed

/-- If every reset succeeds no event of a batch is lost. -/
theorem happenings_eventsTrail {h : Host} {files : Files} {events : List Event}
    (reloads : Reloads (eventsTrail files events h)) :
    (eventsTrail files events h).map Prod.snd = events.map (.event files) := by
  induction events generalizing h with
  | nil => rfl
  | cons event events ih =>
    rw [eventsTrail] at reloads ⊢
    obtain ⟨here, later⟩ := List.forall_mem_cons.mp reloads
    cases failed : (h.handle files event).failure with
    | some error =>
      have asked := asked_of_failure (failed.trans_ne (Option.some_ne_none error))
      cases failed.symm.trans (here asked)
    | none =>
      rw [failed] at later
      rw [List.map_cons, ih later, List.map_cons]

end Host

/-- What happens in a call, if nothing in it fails. -/
def HostCall.happenings : HostCall → List Happening
  | .load files path => [.load files path]
  | .handle files events => events.map (.event files)
  | .update => [.update]
  | .render => [.render]

namespace Host

/-- If every reset succeeds nothing of a run is lost. -/
theorem happenings_trail {h : Host} {calls : List HostCall} (reloads : Reloads (h.trail calls)) :
    (h.trail calls).map Prod.snd = calls.flatMap HostCall.happenings := by
  induction calls generalizing h with
  | nil => rfl
  | cons call calls ih =>
    obtain ⟨here, later⟩ := List.forall_mem_append.mp reloads
    have first : (h.callTrail call).map Prod.snd = call.happenings := by
      cases call with
      | handle files events => exact happenings_eventsTrail here
      | _ => rfl
    rw [trail, List.map_append, first, ih later, List.flatMap_cons]

/-- No key is down on a host that has just been started. -/
theorem pressed_start {config : Config} {chance : Nat → UInt8} {device : Except String Unit}
    {t : Turn} (started : start config chance device = .ok t) : t.host.pressed = {} := by
  rw [start] at started
  split at started
  · cases started
  · cases started
  · cases started
    rfl

/-- In every run in which the resets succeed, a key of the keypad is down exactly when it is held
down behind all that has happened, the events after the end was asked for included; and coming back
to the snapshot moves no key. -/
theorem keypad_mirrors_keyboard {config : Config} {chance : Nat → UInt8}
    {device : Except String Unit} {t : Turn} (started : start config chance device = .ok t)
    (calls : List HostCall) (reloads : Reloads (t.host.trail calls)) :
    let h := t.host.play calls
    (∀ key, h.pressed.contains key = true ↔
      Happening.Holds (calls.flatMap HostCall.happenings) key) ∧
    ∀ files event, event.asked? = some .restore → (h.handle files event).host.pressed = h.pressed := by
  intro h
  have begun : Reloads [] → ∀ key,
      t.host.pressed.contains key = true ↔ Happening.Holds [] key := by
    intro _ key
    rw [pressed_start started, KeySet.contains_empty]
    exact ⟨fun pressed => absurd pressed Bool.false_ne_true,
      fun holds => absurd holds (Happening.not_holds_nil key)⟩
  have held := @Kept.play _ [] _ kept_held calls begun reloads
  rw [List.nil_append, happenings_trail reloads] at held
  exact ⟨held, fun files event asked => h.pressed_handle_restore asked⟩

/-- Keys go down and up around a reset, a wait for a key, a snapshot and the end that is asked for.
At the end two keys are held down, one of which went down behind the key for the end. -/
theorem keypad_mirrors_keyboard_leaving :
    let waiting : Path := ⟨.here, ["wait.ch8"]⟩
    let files : Files := ⟨[(["wait.ch8"], .file [0xF3, 0x0A, 0x12, 0x00])]⟩
    let new : Host := { interpreter := { chance := fun _ => 0 } }
    let calls : List HostCall := [.load files waiting,
      .handle files [.keyDown 51, .keyDown 1073741886, .keyDown 49, .keyDown 113,
        .keyDown 1073741887],
      .update, .handle files [.keyUp 49, .keyDown 27, .keyDown 122, .keyDown 1073741888], .update]
    let h := new.play calls
    start {} (fun _ => 0) (.ok ()) = .ok { host := new } ∧ h.running = false ∧
      ∀ key, Happening.Holds (calls.flatMap HostCall.happenings) key ↔
        key = Nibble.ofNat 4 ∨ key = Nibble.ofNat 10 := by
  intro waiting files new calls h
  have evaluated : h.running = false ∧
      (∀ key, h.pressed.contains key = true ↔ key = Nibble.ofNat 4 ∨ key = Nibble.ofNat 10) ∧
      Reloads (new.trail calls) := by
    unfold Reloads
    decide +kernel
  obtain ⟨leaving, down, reloads⟩ := evaluated
  have started : start {} (fun _ => 0) (.ok ()) = .ok { host := new } := rfl
  obtain ⟨held, _⟩ := keypad_mirrors_keyboard started calls reloads
  exact ⟨started, leaving, fun key => (held key).symm.trans (down key)⟩

end Host

end Chip8
