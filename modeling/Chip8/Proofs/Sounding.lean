import Chip8.Proofs.Happenings

/-!
# When the tone plays

A frame sets the tone, a pause silences it, and nothing else that happens to the host touches it,
whatever becomes of the machine; and a halted machine has no frames. Main statement: after every
update of a run with a sound device, as long as the machine is not halted, the tone plays exactly
when the host is not paused and the sound timer has not run out. A halted machine is silent, unless
a snapshot of a halted machine was brought back while the tone was playing and nothing has set the
tone since: no frame comes that would silence it then, and the tone goes on.
-/

namespace Chip8

/-- On a device the tone plays exactly when it was last asked to. -/
theorem Beeper.update_of_available {b : Beeper} (available : b.available = true) (active : Bool) :
    (b.update active).1 = { available := true, playing := active } := by
  cases b with
  | mk device playing =>
    cases available
    rw [update]
    by_cases same : active = playing
    · rw [same, if_pos (by simp)]
    · rw [if_neg (by simp [same])]

/-- Whether what happens is the key that brings the snapshot back. -/
def Happening.isRestore : Happening → Bool
  | .event _ (.keyDown code) => HotKey.ofCode? code == some .restore
  | _ => false

/-- The events that ask for the snapshot are those of that key. -/
theorem Happening.isRestore_iff {x : Happening} :
    x.isRestore = true ↔ ∃ files event, x = .event files event ∧ event.asked? = some .restore := by
  constructor
  · intro restore
    cases x with
    | event files event =>
      cases event with
      | keyDown code => exact ⟨files, .keyDown code, rfl, eq_of_beq restore⟩
      | keyUp code => cases restore
      | quit => cases restore
      | other => cases restore
    | load files path => cases restore
    | update => cases restore
    | render => cases restore
  · rintro ⟨files, event, rfl, asked⟩
    cases event with
    | keyDown code => exact beq_iff_eq.mpr asked
    | keyUp code => cases asked
    | quit => cases asked
    | other => cases asked

namespace Host

/-- An update leaves a paused host and a halted machine as they are; otherwise it sets the tone. -/
theorem update_cases (h : Host) :
    (h.paused = true ∨ h.halted = true) ∧ h.update.host = h ∨
    h.update.host.paused = false ∧
      h.update.host.beeper = (h.beeper.update h.update.host.wantsTone).1 := by
  by_cases idle : h.paused = true ∨ h.halted = true
  · exact .inl ⟨idle, congrArg Turn.host (update_of_idle idle)⟩
  · obtain ⟨going, _⟩ := not_or.mp idle
    have busy : ¬(h.paused || h.interpreter.machine.isHalted) = true :=
      mt Bool.or_eq_true_iff.mp idle
    rw [update, if_neg busy]
    exact .inr ⟨Bool.eq_false_iff.mpr going, rfl⟩

/-- What one thing that happens makes of the pause, the beeper and the halt of the machine. -/
inductive Turned (h : Host) (x : Happening) (next : Host) : Prop
  /-- They stay. -/
  | still (beeper : next.beeper = h.beeper) (paused : next.paused = h.paused)
      (halted : next.halted = h.halted)
  /-- The machine begins anew. -/
  | renewed (beeper : next.beeper = h.beeper) (paused : next.paused = h.paused)
      (halted : next.halted = false)
  /-- The machine of the snapshot comes back. -/
  | restored (s : Snapshot) (asked : x.isRestore = true) (saved : h.saved = some s)
      (beeper : next.beeper = h.beeper) (paused : next.paused = h.paused)
      (halted : next.halted = s.machine.isHalted)
  /-- The host pauses, with the tone off. -/
  | silenced (beeper : next.beeper = (h.beeper.update false).1) (paused : next.paused = true)
      (halted : next.halted = h.halted)
  /-- The host goes on after a pause. -/
  | resumed (before : h.paused = true) (beeper : next.beeper = h.beeper)
      (paused : next.paused = false) (halted : next.halted = h.halted)
  /-- A frame sets the tone. -/
  | framed (beeper : next.beeper = (h.beeper.update next.wantsTone).1)
      (paused : next.paused = false)

/-- Whatever happens amounts to one of these. -/
theorem turned (h : Host) (x : Happening) : Turned h x (h.meet x).host := by
  have happened := h.happened x
  generalize h.meet x = turn at happened
  cases happened with
  | loaded asked offered => exact .renewed rfl rfl rfl
  | reset asked empty => exact .renewed rfl rfl rfl
  | restored asked saved =>
    exact .restored _ (Happening.isRestore_iff.mpr ⟨_, _, rfl, asked⟩) saved rfl rfl rfl
  | paused asked going => exact .silenced rfl rfl rfl
  | resumed asked stopped => exact .resumed stopped rfl rfl rfl
  | ran going running answer => exact .framed rfl going
  | crashed going running answer => exact .framed rfl going
  | _ => exact .still rfl rfl rfl

/-! ### The tone in a run -/

/-- Whether the tone follows the machine: it plays when the host is not paused, the machine is not
halted and the sound timer has not run out, and at no other time. -/
def ToneFollows (h : Host) : Prop :=
  h.beeper.playing = true ↔
    h.paused = false ∧ h.halted = false ∧ 0 < h.interpreter.machine.sound.value

instance (h : Host) : Decidable h.ToneFollows :=
  inferInstanceAs (Decidable (_ ↔ _))

/-- Whether what happens is that a halted machine comes back while the tone plays. -/
def HaltsInTone (h : Host) (x : Happening) : Prop :=
  h.beeper.playing = true ∧ x.isRestore = true ∧
    ∃ s, h.saved = some s ∧ s.machine.isHalted = true

/-- Whether what happens sets the tone: a frame does, and a pause that begins. -/
def SetsTone (h : Host) : Happening → Prop
  | .update => h.paused = false ∧ h.halted = false
  | .event _ event => event.asked? = some .pause ∧ h.paused = false
  | _ => False

/-- Whether the tone has been set since a halted machine last came back while it was playing. -/
def Settled (past : List (Host × Happening)) : Prop :=
  ∀ before g x after, past = before ++ (g, x) :: after → g.HaltsInTone x →
    ∃ f y, (f, y) ∈ after ∧ f.SetsTone y

/-- Whether there is a sound device, and no tone in a pause. -/
structure InTune (h : Host) : Prop where
  available : h.beeper.available = true
  silent : h.paused = true → h.beeper.playing = false

/-- Whether the tone is off if the machine is halted. -/
def SilentHalt (h : Host) : Prop :=
  h.halted = true → h.beeper.playing = false

/-- The tone is wanted when the machine is not halted and the sound timer has not run out. -/
theorem wantsTone_iff (h : Host) :
    h.wantsTone = true ↔ h.halted = false ∧ 0 < h.interpreter.machine.sound.value := by
  rw [wantsTone, Bool.and_eq_true, Bool.not_eq_true', Timer.active, decide_eq_true_eq,
    UInt8.pos_iff_ne_zero, and_comm, halted]

/-- A halted machine wants no tone. -/
theorem wantsTone_of_halted {h : Host} (stopped : h.halted = true) : h.wantsTone = false :=
  Bool.eq_false_iff.mpr fun wanted =>
    absurd (((wantsTone_iff h).mp wanted).1.symm.trans stopped) (by decide)

variable {h next : Host} {x : Happening}

/-- The same pause and the same beeper are in tune as before. -/
theorem InTune.of_same (tune : h.InTune) (beeper : next.beeper = h.beeper)
    (paused : next.paused = h.paused) : next.InTune where
  available := by rw [beeper, tune.available]
  silent stop := by
    rw [paused] at stop
    rw [beeper, tune.silent stop]

/-- Whatever happens, a host stays in tune. -/
theorem InTune.meet (tune : h.InTune) (x : Happening) : (h.meet x).host.InTune := by
  have asked := Beeper.update_of_available tune.available
  cases h.turned x with
  | still beeper paused _ => exact tune.of_same beeper paused
  | renewed beeper paused _ => exact tune.of_same beeper paused
  | restored _ _ _ beeper paused _ => exact tune.of_same beeper paused
  | silenced beeper _ _ =>
    rw [asked] at beeper
    exact ⟨by rw [beeper], fun _ => by rw [beeper]⟩
  | resumed _ beeper paused _ =>
    exact ⟨by rw [beeper, tune.available], fun stop => absurd (paused.symm.trans stop) (by decide)⟩
  | framed beeper paused =>
    rw [asked] at beeper
    exact ⟨by rw [beeper], fun stop => absurd (paused.symm.trans stop) (by decide)⟩

/-- Whatever happens but the return of a halted machine while the tone plays, a halted machine stays
silent. -/
theorem SilentHalt.meet (silent : h.SilentHalt) (tune : h.InTune) (calm : ¬h.HaltsInTone x) :
    (h.meet x).host.SilentHalt := by
  intro stopped
  have asked := Beeper.update_of_available tune.available
  cases h.turned x with
  | still beeper _ halted => rw [beeper, silent (halted.symm.trans stopped)]
  | renewed _ _ halted => exact absurd (halted.symm.trans stopped) (by decide)
  | restored s restore saved beeper _ halted =>
    -- The halt comes from the snapshot, and nothing has touched the tone.
    rw [beeper]
    exact Bool.eq_false_iff.mpr fun playing =>
      calm ⟨playing, restore, s, saved, halted.symm.trans stopped⟩
  | silenced beeper _ _ => rw [beeper, asked]
  | resumed before beeper _ _ => rw [beeper, tune.silent before]
  | framed beeper _ => rw [beeper, asked, wantsTone_of_halted stopped]

/-- What does not set the tone leaves the beeper alone. -/
theorem beeper_meet (still : ¬h.SetsTone x) : (h.meet x).host.beeper = h.beeper := by
  have happened := h.happened x
  generalize h.meet x = turn at happened
  cases happened with
  | paused asked going => exact absurd ⟨asked, going⟩ still
  | ran going running answer => exact absurd ⟨going, running⟩ still
  | crashed going running answer => exact absurd ⟨going, running⟩ still
  | _ => rfl

/-- What sets the tone leaves a halted machine silent. -/
theorem silentHalt_of_setsTone (tune : h.InTune) (sets : h.SetsTone x) :
    (h.meet x).host.SilentHalt := by
  have asked := Beeper.update_of_available tune.available
  intro stopped
  cases x with
  | load files path => cases sets
  | event files event =>
    obtain ⟨pause, going⟩ := sets
    have silenced : (h.meet (.event files event)).host.beeper = (h.beeper.update false).1 := by
      rw [meet, handle_of_asked pause]
      simp only [obey, togglePause, going]
      rfl
    rw [silenced, asked]
  | update =>
    obtain ⟨-, toned⟩ := h.update_cases.resolve_left fun idle => by
      simp only [sets.1, sets.2, Bool.false_eq_true, or_self, false_and] at idle
    rw [meet] at stopped ⊢
    rw [toned, asked, wantsTone_of_halted stopped]
  | render => cases sets

variable {past : List (Host × Happening)}

/-- A snapshot that comes back does not set the tone. -/
theorem HaltsInTone.not_setsTone (brings : h.HaltsInTone x) : ¬h.SetsTone x := by
  obtain ⟨-, asked, -⟩ := brings
  obtain ⟨files, event, rfl, restore⟩ := Happening.isRestore_iff.mp asked
  rintro ⟨pause, -⟩
  exact absurd (restore.symm.trans pause) (by decide)

/-- Nothing has to be settled at the beginning. -/
theorem settled_nil : Settled [] := by
  rintro before g x after parts -
  exact absurd parts (List.append_ne_nil_of_right_ne_nil _ (List.cons_ne_nil _ _)).symm

/-- One more thing leaves everything settled if it does not bring back a halted machine while the
tone plays, and sets the tone or finds everything settled. -/
theorem settled_snoc_iff :
    Settled (past ++ [(h, x)]) ↔ ¬h.HaltsInTone x ∧ (h.SetsTone x ∨ Settled past) := by
  constructor
  · intro settled
    refine ⟨fun brings => ?_, Classical.or_iff_not_imp_left.mpr fun still => ?_⟩
    · obtain ⟨f, y, member, -⟩ := settled past h x [] rfl brings
      cases member
    · rintro before g y after rfl brings
      obtain ⟨f, z, member, sets⟩ :=
        settled before g y (after ++ [(h, x)]) (List.append_assoc ..) brings
      rcases List.mem_append.mp member with within | last
      · exact ⟨f, z, within, sets⟩
      · obtain ⟨rfl, rfl⟩ := Prod.mk.inj (List.mem_singleton.mp last)
        exact absurd sets still
  · rintro ⟨calm, settled⟩ before g y after parts brings
    rcases snoc_eq_parts_iff.mp parts with ⟨-, -, last⟩ | ⟨rest, rfl, rfl⟩
    · obtain ⟨rfl, rfl⟩ := Prod.mk.inj last
      exact absurd brings calm
    · rcases settled with sets | earlier
      · exact ⟨h, x, List.mem_append_right rest (List.mem_singleton_self _), sets⟩
      · obtain ⟨f, z, member, sets⟩ := earlier before g y rest rfl brings
        exact ⟨f, z, List.mem_append_left _ member, sets⟩

/-- A host stays in tune. A halted machine is silent when everything is settled, and otherwise the
tone plays. -/
theorem kept_silentHalt :
    Kept fun past h =>
      h.InTune ∧ (Settled past → h.SilentHalt) ∧ (¬Settled past → h.beeper.playing = true) := by
  rintro past h x ⟨tune, silent, playing⟩
  simp only [settled_snoc_iff]
  refine ⟨tune.meet x, ?_, fun unsettled => ?_⟩
  · rintro ⟨calm, sets | settled⟩
    · exact silentHalt_of_setsTone tune sets
    · exact (silent settled).meet tune calm
  · by_cases brings : h.HaltsInTone x
    · rw [beeper_meet brings.not_setsTone]
      exact brings.1
    · obtain ⟨still, before⟩ := not_or.mp fun settled => unsettled ⟨brings, settled⟩
      rw [beeper_meet still]
      exact playing before

/-- After an update, if the machine is not halted, the tone follows it. -/
theorem InTune.update (tune : h.InTune) (going : h.update.host.halted = false) :
    h.update.host.ToneFollows := by
  rcases h.update_cases with ⟨idle, same⟩ | ⟨paused, toned⟩
  · rw [same] at going ⊢
    have paused : h.paused = true := idle.resolve_right fun halted =>
      absurd (going.symm.trans halted) (by decide)
    rw [ToneFollows, tune.silent paused, paused]
    simp
  · rw [ToneFollows, toned, Beeper.update_of_available tune.available, wantsTone_iff, paused]
    simp

/-- A host that has just been started with a sound device is silent and not paused. -/
theorem start_silent {config : Config} {chance : Nat → UInt8} {t : Turn}
    (started : start config chance (.ok ()) = .ok t) : t.host.InTune ∧ t.host.SilentHalt := by
  rw [start, Beeper.start] at started
  cases scaled : Zoom.ofScale config.scale with
  | error e =>
    rw [scaled] at started
    cases started
  | ok scale =>
    rw [scaled] at started
    cases tuned : Tone.frequency config.toneRate with
    | error e =>
      rw [tuned] at started
      cases started
    | ok frequency =>
      rw [tuned] at started
      cases started
      exact ⟨⟨rfl, fun _ => rfl⟩, fun _ => rfl⟩

/-- After every update of a run with a sound device, the tone follows the machine exactly when the
machine is not halted or the tone has been set since a halted machine last came back while it was
playing. -/
theorem tone_after_update {config : Config} {chance : Nat → UInt8} {t : Turn}
    (started : start config chance (.ok ()) = .ok t) (calls : List HostCall) :
    let h := t.host.play calls
    h.update.host.ToneFollows ↔
      h.update.host.halted = false ∨ Settled (t.host.trail calls ++ [(h, .update)]) := by
  intro h
  obtain ⟨begun, quiet⟩ := start_silent started
  have run := @Kept.play _ [] _ kept_silentHalt calls
    ⟨begun, fun _ => quiet, fun unsettled => absurd settled_nil unsettled⟩
  -- A frame can halt the machine, so what is kept is carried over the update itself.
  obtain ⟨-, silent, playing⟩ := kept_silentHalt _ h .update run
  cases stopped : h.update.host.halted with
  | false => exact iff_of_true (run.1.update stopped) (.inl rfl)
  | true =>
    have follows : h.update.host.ToneFollows ↔ h.update.host.beeper.playing = false := by
      rw [ToneFollows, stopped]
      simp
    rw [follows]
    constructor
    · intro off
      refine .inr (Classical.byContradiction fun unsettled => ?_)
      exact absurd (off.symm.trans (playing unsettled)) (by decide)
    · rintro (going | settled)
      · cases going
      · exact silent settled stopped

/-- A program that sounds the tone for long and then goes round in circles. After its first frame
the tone plays. -/
theorem tone_after_update_beeps :
    let beeping : Path := ⟨.here, ["beep.ch8"]⟩
    let files : Files := ⟨[(["beep.ch8"], .file [0x60, 0xFF, 0xF0, 0x18, 0x12, 0x04])]⟩
    ∃ t, start {} (fun _ => 0) (.ok ()) = .ok t ∧
      let u := (t.host.play [.load files beeping]).update.host
      u.halted = false ∧ u.paused = false ∧ 0 < u.interpreter.machine.sound.value ∧
        u.ToneFollows ∧ u.beeper.playing = true := by
  intro beeping files
  refine ⟨_, rfl, ?_⟩
  intro u
  have evaluated : u.halted = false ∧ u.paused = false ∧
      0 < u.interpreter.machine.sound.value := by decide +kernel
  obtain ⟨going, unpaused, sounding⟩ := evaluated
  have started : start {} (fun _ => 0) (.ok ()) = .ok _ := rfl
  have follows : u.ToneFollows :=
    (tone_after_update started [.load files beeping]).mpr (.inl going)
  exact ⟨going, unpaused, sounding, follows, follows.mpr ⟨unpaused, going, sounding⟩⟩

/-- The key that brings the snapshot back changes nothing but the interpreter. -/
theorem host_meet_restore {s : Snapshot} (asked : x.isRestore = true) (saved : h.saved = some s) :
    (h.meet x).host = { h with interpreter := (h.interpreter.restore s).interpreter } := by
  obtain ⟨files, event, rfl, known⟩ := Happening.isRestore_iff.mp asked
  rw [meet, handle_of_asked known]
  simp only [obey, restore, saved]

/-- When a halted machine comes back while the tone plays, the next update leaves the tone on. -/
theorem tone_outlasts_restore (brings : h.HaltsInTone x) :
    let u := (h.meet x).host.update.host
    u.halted = true ∧ u.beeper.playing = true := by
  obtain ⟨playing, asked, s, saved, stopped⟩ := brings
  have back := host_meet_restore asked saved
  have halted : (h.meet x).host.halted = true := by
    rw [back]
    exact stopped
  have on : (h.meet x).host.beeper.playing = true := by
    rw [back]
    exact playing
  rw [update_of_idle (.inr halted)]
  exact ⟨halted, on⟩

/-- A halted machine is saved, a program that sounds the tone is loaded, and the saved machine comes
back while the tone plays. After the next update the machine is halted and the tone plays on. -/
theorem tone_outlasts_halt :
    let halting : Path := ⟨.here, ["halt.ch8"]⟩
    let beeping : Path := ⟨.here, ["beep.ch8"]⟩
    let files : Files := ⟨[(["halt.ch8"], .file [0x00, 0xEE]),
      (["beep.ch8"], .file [0x60, 0xFF, 0xF0, 0x18, 0x12, 0x04])]⟩
    let save : Event := .keyDown 1073741887
    let restore : Event := .keyDown 1073741888
    ∃ t, start {} (fun _ => 0) (.ok ()) = .ok t ∧
      let u := (t.host.play [.load files halting, .update, .handle files [save],
        .load files beeping, .update, .handle files [restore]]).update.host
      u.paused = false ∧ u.halted = true ∧ u.beeper.playing = true ∧ ¬u.ToneFollows := by
  intro halting beeping files save restore
  refine ⟨_, rfl, ?_⟩
  decide +kernel

end Host

end Chip8
