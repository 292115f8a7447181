import Chip8.Proofs.Halting
import Chip8.Proofs.Happenings

/-!
# What the caption says

The caption names the program and remarks that the host is paused or that the machine has halted.
It is set by whatever changes these, each time without a look at the other: a machine that takes the
place of another one takes the remark on the pause away, and the end of a pause takes away the remark
on the halt. Main statement: after every update of a run the caption says what it should, unless
the last thing that set it was one of these.
-/

namespace Chip8

/-- The caption that an effect sets. -/
def Effect.caption? : Effect → Option String
  | .caption text => some text
  | _ => none

/-- The captions that effects set, one after the other. -/
def captions (effects : List Effect) : List String :=
  effects.filterMap Effect.caption?

/-- What is set by one part of the effects and then by another. -/
theorem captions_append (first second : List Effect) :
    captions (first ++ second) = captions first ++ captions second :=
  List.filterMap_append

/-- Reports set no caption. -/
theorem captions_reported (reports : List Report) : captions (Host.reported reports) = [] := by
  rw [captions, Host.reported, List.filterMap_map]
  exact List.filterMap_eq_nil_iff.mpr fun _ _ => rfl

/-- The beeper sets no caption. -/
theorem captions_beeper (b : Beeper) (active : Bool) : captions (b.update active).2 = [] := by
  rw [Beeper.update]
  split
  · rfl
  · rfl

namespace Happening

/-- Whether what happens puts a machine in place of the present one, if there is one to put. -/
def replaces : Happening → Bool
  | .load .. => true
  | .event _ e => e.asked? == some .reset || e.asked? == some .restore
  | _ => false

end Happening

namespace Host

/-! ### The captions of a run -/

/-- The effects of a run, one after the other. -/
def effects (h : Host) : List HostCall → List Effect
  | [] => []
  | call :: calls => (h.answer call).effects ++ (h.answer call).host.effects calls

/-- The effects of what happened, one after the other. -/
def effectsOf (past : List (Host × Happening)) : List Effect :=
  past.flatMap fun p => (p.1.meet p.2).effects

/-- The effects of a batch are those of its events as far as they are handled. -/
theorem effects_handleAll (files : Files) (events : List Event) (h : Host) :
    (handleAll files events h).effects = effectsOf (eventsTrail files events h) := by
  induction events generalizing h with
  | nil => rfl
  | cons event events ih =>
    rw [handleAll, Turn.andThen, eventsTrail, effectsOf, List.flatMap_cons]
    change _ = (h.handle files event).effects ++ _
    cases (h.handle files event).failure with
    | some error => exact (List.append_nil _).symm
    | none => exact congrArg _ (ih _)

/-- The effects of a run are those of all that happens in it. -/
theorem effects_eq (h : Host) (calls : List HostCall) :
    h.effects calls = effectsOf (h.trail calls) := by
  induction calls generalizing h with
  | nil => rfl
  | cons call calls ih =>
    have first : (h.answer call).effects = effectsOf (h.callTrail call) := by
      cases call with
      | handle files events => exact effects_handleAll files events h
      | load files path => exact (List.append_nil _).symm
      | update => exact (List.append_nil _).symm
      | render => exact (List.append_nil _).symm
    rw [effects, trail, first, ih, effectsOf, effectsOf, effectsOf, List.flatMap_append]

/-- Whether `x`, which happened to `g`, is the last thing of the past that set the caption. -/
structure LastTitled (past : List (Host × Happening)) (g : Host) (x : Happening)
    (caption : String) : Prop where
  last : ∃ before after, past = before ++ (g, x) :: after ∧ captions (effectsOf after) = []
  set : captions (g.meet x).effects = [caption]

namespace LastTitled

variable {past : List (Host × Happening)} {g h : Host} {x y : Happening} {caption : String}

/-- What sets the caption is the last thing that did. -/
theorem set_now (set : captions (h.meet y).effects = [caption]) :
    LastTitled (past ++ [(h, y)]) h y caption :=
  ⟨⟨past, [], rfl, rfl⟩, set⟩

/-- What sets no caption leaves the last thing that did. -/
theorem still (titled : LastTitled past g x caption)
    (silent : captions (h.meet y).effects = []) : LastTitled (past ++ [(h, y)]) g x caption := by
  obtain ⟨before, after, rfl, quiet⟩ := titled.last
  refine ⟨⟨before, after ++ [(h, y)], ?_, ?_⟩, titled.set⟩
  · rw [List.append_assoc, List.cons_append]
  · rw [effectsOf, List.flatMap_append, captions_append, List.flatMap_singleton, silent]
    exact (List.append_nil _).trans quiet

/-- The caption shown is the one that was set last. -/
theorem shown (titled : LastTitled past g x caption) :
    (captions (effectsOf past)).getLast? = some caption := by
  obtain ⟨before, after, rfl, quiet⟩ := titled.last
  rw [effectsOf, List.flatMap_append, captions_append, List.flatMap_cons, captions_append,
    titled.set]
  change (_ ++ ([caption] ++ captions (effectsOf after))).getLast? = _
  rw [quiet, List.append_nil, List.getLast?_concat]

end LastTitled

/-! ### What the caption should say -/

/-- The caption without a remark. -/
def title (h : Host) : String :=
  s!"Cat's CHIP-8 Emulator - {h.programName}"

/-- Whether a caption says what it should: that the machine has halted and why, that the host is
paused, or neither. Nothing is asked when both hold. -/
structure TellsTruth (h : Host) (caption : String) : Prop where
  halted : h.paused = false → h.halted = true →
    ∃ fault, h.interpreter.machine.fault = some fault ∧
      caption = s!"{h.title} [Halted: {fault.message}]"
  paused : h.paused = true → h.halted = false → caption = s!"{h.title} [Paused]"
  going : h.paused = false → h.halted = false → caption = h.title

/-- Whether what happens to a host takes away a remark that is still due, if it sets the caption. -/
inductive Misleads (h : Host) (x : Happening) : Prop
  /-- A machine takes the place of another one during a pause. -/
  | replaced (stopped : h.paused = true) (another : x.replaces = true)
  /-- A halted machine comes back. -/
  | returned (s : Snapshot) (asked : x.asked? = some .restore) (saved : h.saved = some s)
      (halted : s.machine.isHalted = true)
  /-- A pause ends in which the machine is halted. -/
  | resumed (stopped : h.paused = true) (asked : x.asked? = some .pause) (halted : h.halted = true)

/-- What a caption says, and whether `x`, which set it when it happened to `g`, misleads. -/
structure Titled (h g : Host) (x : Happening) (caption : String) : Prop where
  going : h.paused = false → h.halted = false → caption = h.title ∧ ¬g.Misleads x
  paused : h.paused = true →
    caption = s!"{h.title} [Paused]" ∧ ¬g.Misleads x ∨ caption = h.title ∧ g.Misleads x
  halted : h.paused = false → h.halted = true →
    (∃ fault, h.interpreter.machine.fault = some fault ∧
      caption = s!"{h.title} [Halted: {fault.message}]" ∧ ¬g.Misleads x) ∨
    caption = h.title ∧ g.Misleads x

/-! ### The texts -/

/-- The caption without a remark is the title. -/
theorem setCaption_empty (h : Host) : h.setCaption "" = .caption h.title := by
  have text : h.captionText "" = h.title := by
    unfold captionText title
    simp only [↓reduceIte]
  rw [setCaption, text]

/-- A remark stands in brackets behind the title. -/
theorem captionText_of_ne (h : Host) {remark : String} (ne : remark ≠ "") :
    h.captionText remark = h.title ++ " [" ++ remark ++ "]" := by
  unfold captionText
  simp only [if_neg ne]
  rfl

/-- The caption of a host that is paused. -/
theorem setCaption_paused (h : Host) :
    h.setCaption "Paused" = .caption s!"{h.title} [Paused]" := by
  rw [setCaption, captionText_of_ne h (by decide), String.append_assoc, String.append_assoc]
  rfl

/-- The caption of a host whose machine has halted. -/
theorem setCaption_halted (h : Host) (fault : Fault) :
    h.setCaption s!"Halted: {fault.message}" =
      .caption s!"{h.title} [Halted: {fault.message}]" := by
  have ne : "Halted: " ++ fault.message ≠ "" := by
    intro same
    have lengths := congrArg String.length same
    rw [String.length_append] at lengths
    have first : "Halted: ".length = 8 := rfl
    have none : "".length = 0 := rfl
    omega
  have joined : h.title ++ " [" ++ "Halted: " = h.title ++ " [Halted: " := String.append_assoc
  change Effect.caption (h.captionText ("Halted: " ++ fault.message)) =
    .caption (h.title ++ " [Halted: " ++ fault.message ++ "]")
  rw [captionText_of_ne h ne, ← String.append_assoc, joined]

/-- A title with something behind it is not the title. -/
theorem append_ne_title (h : Host) {remark : String} (ne : 0 < remark.length) :
    h.title ++ remark ≠ h.title := by
  intro same
  have lengths := congrArg String.length same
  rw [String.length_append] at lengths
  omega

/-- The remark on a pause shows. -/
theorem paused_ne_title (h : Host) : s!"{h.title} [Paused]" ≠ h.title := by
  have remarked : 0 < " [Paused]".length := Nat.lt_of_lt_of_eq (Nat.succ_pos 8) rfl
  exact h.append_ne_title remarked

/-- The remark on a halt shows. -/
theorem halted_ne_title (h : Host) (fault : Fault) :
    s!"{h.title} [Halted: {fault.message}]" ≠ h.title := by
  change h.title ++ " [Halted: " ++ fault.message ++ "]" ≠ h.title
  rw [String.append_assoc, String.append_assoc]
  refine h.append_ne_title ?_
  have first : " [Halted: ".length = 10 := rfl
  rw [String.length_append]
  omega

/-! ### The caption of a host in a run -/

namespace Titled

variable {h next g : Host} {x : Happening} {caption : String}

/-- The same caption goes with a host of the same name, pause and halt. -/
theorem of_same (titled : Titled h g x caption) (name : next.programName = h.programName)
    (paused : next.paused = h.paused) (halted : next.halted = h.halted)
    (fault : next.halted = true →
      next.interpreter.machine.fault = h.interpreter.machine.fault) :
    Titled next g x caption := by
  have title : next.title = h.title :=
    congrArg (fun name => s!"Cat's CHIP-8 Emulator - {name}") name
  refine ⟨?_, ?_, ?_⟩
  · rw [paused, halted, title]
    exact titled.going
  · rw [paused, title]
    exact titled.paused
  · rw [paused, title]
    intro going stopped
    rw [fault stopped]
    exact titled.halted going (halted.symm.trans stopped)

/-- The title alone misleads when a remark is due, and only then. -/
theorem plain (going : next.paused = false → next.halted = false → ¬h.Misleads x)
    (paused : next.paused = true → h.Misleads x)
    (halted : next.paused = false → next.halted = true → h.Misleads x) :
    Titled next h x next.title where
  going off on := ⟨rfl, going off on⟩
  paused on := .inr ⟨rfl, paused on⟩
  halted off on := .inr ⟨rfl, halted off on⟩

/-- A caption tells the truth as long as what set it last does not mislead, and only then if there
is something to tell. -/
theorem tellsTruth_iff (titled : Titled h g x caption)
    (asked : h.paused = false ∨ h.halted = false) :
    h.TellsTruth caption ↔ ¬g.Misleads x := by
  cases paused : h.paused with
  | true =>
    have going : h.halted = false := asked.resolve_left (by rw [paused]; decide)
    rcases titled.paused paused with ⟨told, honest⟩ | ⟨untold, misled⟩
    · refine ⟨fun _ => honest, fun _ => ⟨fun off => ?_, fun _ _ => told, fun off => ?_⟩⟩
      · exact absurd (paused.symm.trans off) (by decide)
      · exact absurd (paused.symm.trans off) (by decide)
    · refine ⟨fun truth => ?_, fun honest => absurd misled honest⟩
      exact absurd ((truth.paused paused going).symm.trans untold) h.paused_ne_title
  | false =>
    cases halted : h.halted with
    | false =>
      obtain ⟨told, honest⟩ := titled.going paused halted
      refine ⟨fun _ => honest, fun _ => ⟨fun _ on => ?_, fun on => ?_, fun _ _ => told⟩⟩
      · exact absurd (halted.symm.trans on) (by decide)
      · exact absurd (paused.symm.trans on) (by decide)
    | true =>
      rcases titled.halted paused halted with ⟨fault, set, told, honest⟩ | ⟨untold, misled⟩
      · refine ⟨fun _ => honest, fun _ => ⟨fun _ _ => ⟨fault, set, told⟩, fun on => ?_,
          fun _ off => ?_⟩⟩
        · exact absurd (paused.symm.trans on) (by decide)
        · exact absurd (halted.symm.trans off) (by decide)
      · refine ⟨fun truth => ?_, fun honest => absurd misled honest⟩
        obtain ⟨fault, _, told⟩ := truth.halted paused halted
        exact absurd (told.symm.trans untold) (h.halted_ne_title fault)

end Titled

/-- What a thing that happens makes of the caption and of what it should say. -/
inductive Retitled (h : Host) (x : Happening) (turn : Turn) : Prop
  /-- Nothing. -/
  | still (silent : captions turn.effects = []) (name : turn.host.programName = h.programName)
      (paused : turn.host.paused = h.paused) (halted : turn.host.halted = h.halted)
      (fault : turn.host.halted = true →
        turn.host.interpreter.machine.fault = h.interpreter.machine.fault)
  /-- The caption is set. -/
  | set (caption : String) (shown : captions turn.effects = [caption])
      (titled : Titled turn.host h x caption)

namespace Retitled

variable {h next : Host} {x : Happening}

/-- Reports and a caption set the caption. -/
theorem captions_told (reports : List Report) (caption : String) :
    captions (reported reports ++ [.caption caption]) = [caption] := by
  rw [captions_append, captions_reported]
  rfl

/-- Reports and the title set the title. -/
theorem captions_title (reports : List Report) (h : Host) :
    captions (reported reports ++ [h.setCaption ""]) = [h.title] := by
  rw [setCaption_empty]
  exact captions_told reports h.title

/-- A program that begins shows its title, which misleads in a pause. -/
theorem titled_withProgram {files : Files} {path : Path} {program : List UInt8}
    (asked : h.AsksFor files path x) :
    Titled (h.withProgram path program) h x (h.withProgram path program).title := by
  have known : x.replaces = true ∧ x.asked? ≠ some .restore := by
    cases asked with
    | load => exact ⟨rfl, nofun⟩
    | reset event asked loaded =>
      simp only [Happening.replaces, Happening.asked?, asked]
      decide
  refine .plain (fun off _ misleads => ?_) (fun on => .replaced on known.1) (fun _ => nofun)
  cases misleads with
  | replaced stopped another => exact absurd (off.symm.trans stopped) (by decide)
  | returned s asked saved halted => exact known.2 asked
  | resumed stopped asked halted => exact absurd (off.symm.trans stopped) (by decide)

/-- A frame that faults. -/
theorem crashed {fault : Fault} (going : h.paused = false) (running : h.halted = false)
    (answer : (h.interpreter.frame h.config.cyclesPerFrame).answer = .error fault)
    (status : Report) :
    Retitled h .update
      (h.framed [h.setCaption s!"Halted: {fault.message}", .report status]) := by
  have tells := Interpreter.tells_frame running h.config.cyclesPerFrame
  refine .set s!"{h.title} [Halted: {fault.message}]" ?_ ⟨fun _ off => ?_, fun on => ?_,
    fun _ _ => .inl ⟨fault, tells.fault fault answer, rfl, ?_⟩⟩
  · simp only [framed, captions_append, captions_reported, captions_beeper, List.append_nil,
      List.nil_append, setCaption_halted]
    rfl
  · exact absurd ((Machine.isHalted_of_runState (tells.runState fault answer)).symm.trans off)
      (by decide)
  · exact absurd (going.symm.trans on) (by decide)
  · intro misleads
    cases misleads with
    | replaced stopped another => cases another
    | returned s asked saved halted => cases asked
    | resumed stopped asked halted => cases asked

end Retitled

/-- Whatever happens behind the first load amounts to one of these. -/
theorem retitled (h : Host) (x : Happening) (loaded : h.programPath ≠ none) :
    Retitled h x (h.meet x) := by
  have happened := h.happened x
  generalize h.meet x = turn at happened
  cases happened with
  | loaded asked offered =>
    exact .set _ (Retitled.captions_title _ _) (Retitled.titled_withProgram asked)
  | @restored files event s asked saved =>
    -- The title is set whatever comes back, so a pause and a halt both go unsaid.
    have another : (Happening.event files event).replaces = true := by
      simp only [Happening.replaces, asked]
      decide
    refine .set _ (Retitled.captions_title _ h) (.plain (fun off on misleads => ?_)
      (fun on => .replaced on another) (fun _ on => .returned s asked saved on))
    cases misleads with
    | replaced stopped another => exact absurd (off.symm.trans stopped) (by decide)
    | returned s' asked saved' halted =>
      cases saved.symm.trans saved'
      exact absurd (halted.symm.trans on) (by decide)
    | resumed stopped asked halted => exact absurd (off.symm.trans stopped) (by decide)
  | paused asked going =>
    refine .set s!"{h.title} [Paused]" ?_ ⟨nofun, fun _ => .inl ⟨rfl, fun misleads => ?_⟩, nofun⟩
    · rw [captions_append, captions_beeper, setCaption_paused]
      rfl
    · cases misleads with
      | replaced stopped another => exact absurd (going.symm.trans stopped) (by decide)
      | returned s restore saved halted => cases asked.symm.trans restore
      | resumed stopped asked halted => exact absurd (going.symm.trans stopped) (by decide)
  | resumed asked stopped =>
    refine .set _ (Retitled.captions_title [] h) (.plain (fun _ off misleads => ?_) nofun
      (fun _ on => .resumed stopped asked on))
    cases misleads with
    | replaced stopped another =>
      simp only [Happening.replaces, asked] at another
      cases another
    | returned s restore saved halted => cases asked.symm.trans restore
    | resumed stopped asked halted => exact absurd (halted.symm.trans off) (by decide)
  | crashed going running answer => exact .crashed going running answer _
  | ran going running answer =>
    have going' := (Interpreter.tells_frame running h.config.cyclesPerFrame).going _ answer
    refine .still ?_ rfl rfl (going'.trans running.symm) fun on => ?_
    · simp only [framed, captions_append, captions_reported, captions_beeper, List.append_nil]
    · exact absurd (going'.symm.trans on) (by decide)
  | reset asked empty => exact absurd empty loaded
  | refused asked error reports =>
    exact .still (captions_reported reports) rfl rfl rfl fun _ => rfl
  | unsaved asked empty => exact .still rfl rfl rfl rfl fun _ => rfl
  | saved asked => exact .still rfl rfl rfl rfl fun _ => rfl
  | struck asked => exact .still rfl rfl rfl rfl fun _ => rfl
  | freed up => exact .still rfl rfl rfl rfl fun _ => rfl
  | beside bystands running overlay => exact .still rfl rfl rfl rfl fun _ => rfl
  | idle resting => exact .still rfl rfl rfl rfl fun _ => rfl
  | shown => exact .still rfl rfl rfl rfl fun _ => rfl

/-- A host that has loaded a program has one for good. -/
theorem programPath_meet {h : Host} (loaded : h.programPath ≠ none) (x : Happening) :
    (h.meet x).host.programPath ≠ none := by
  have happened := h.happened x
  generalize h.meet x = turn at happened
  cases happened with
  | loaded asked offered => exact Option.some_ne_none _
  | _ => exact loaded

/-- Behind the first load the caption goes with the host and with the last thing that set it. -/
theorem kept_titled : Kept fun past h => h.programPath ≠ none ∧
    ∃ g x caption, LastTitled past g x caption ∧ Titled h g x caption := by
  rintro past h x ⟨loaded, g, y, caption, last, titled⟩
  refine ⟨programPath_meet loaded x, ?_⟩
  cases h.retitled x loaded with
  | still silent name paused halted fault =>
    exact ⟨g, y, caption, last.still silent, titled.of_same name paused halted fault⟩
  | set told shown now => exact ⟨h, x, told, .set_now shown, now⟩

/-- A load that succeeds begins a run whose caption goes with the host. -/
theorem titled_load {h : Host} {files : Files} {path : Path}
    (loaded : (h.load files path).failure = none) :
    (h.load files path).host.programPath ≠ none ∧
      ∃ g x caption, LastTitled [(h, .load files path)] g x caption ∧
        Titled (h.load files path).host g x caption := by
  rcases load_cases files path with ⟨program, offered⟩ | ⟨error, reports, refused⟩
  · have turn := h.load_of_offers offered
    have shown : captions (h.meet (.load files path)).effects =
        [(h.withProgram path program).title] := by
      rw [meet, turn]
      exact Retitled.captions_title _ _
    rw [turn]
    exact ⟨Option.some_ne_none path, h, .load files path, _, @LastTitled.set_now [] _ _ _ shown,
      Retitled.titled_withProgram .load⟩
  · rw [refused] at loaded
    cases loaded

/-- After every update of a run that begins with a load, the caption is the title if the host is not
paused and the machine not halted. In a pause, or when the machine has halted, it says so if and
only if the last thing that set it does not mislead. -/
theorem caption_after_update {h : Host} {files : Files} {path : Path}
    (loaded : (h.load files path).failure = none) (calls : List HostCall) :
    let run := .load files path :: calls ++ [.update]
    let u := h.play run
    ∃ g x caption, LastTitled (h.trail run) g x caption ∧
      (captions (h.effects run)).getLast? = some caption ∧
      (u.paused = false → u.halted = false → caption = u.title) ∧
      (u.paused = false ∨ u.halted = false → (u.TellsTruth caption ↔ ¬g.Misleads x)) := by
  intro run u
  obtain ⟨_, g, x, caption, last, titled⟩ :=
    kept_titled.play (calls ++ [.update]) (titled_load loaded)
  refine ⟨g, x, caption, last, ?_, fun off on => (titled.going off on).1, titled.tellsTruth_iff⟩
  rw [effects_eq]
  exact last.shown

/-- A program halts in its first frame, and the caption says so. -/
theorem caption_after_update_halts :
    let h : Host := { interpreter := { chance := fun _ => 0 } }
    let halting : Path := ⟨.here, ["halt.ch8"]⟩
    let files : Files := ⟨[(["halt.ch8"], .file [0x00, 0xEE])]⟩
    let run : List HostCall := [.load files halting, .update]
    let u := h.play run
    let told := "Cat's CHIP-8 Emulator - halt [Halted: Return with an empty call stack]"
    start {} (fun _ => 0) (.ok ()) = .ok { host := h } ∧ u.paused = false ∧ u.halted = true ∧
      (captions (h.effects run)).getLast? = some told ∧ u.TellsTruth told ∧
      ∃ g x, LastTitled (h.trail run) g x told ∧ ¬g.Misleads x := by
  intro h halting files run u told
  have evaluated : u.paused = false ∧ u.halted = true ∧
      u.interpreter.machine.fault = some .stackUnderflow ∧
      (captions (h.effects run)).getLast? = some told ∧
      told = s!"{u.title} [Halted: {Fault.stackUnderflow.message}]" := by decide +kernel
  obtain ⟨unpaused, halted, fault, shown, text⟩ := evaluated
  have truth : u.TellsTruth told := by
    refine ⟨fun _ _ => ⟨.stackUnderflow, fault, text⟩, fun on => ?_, fun _ off => ?_⟩
    · exact absurd (unpaused.symm.trans on) (by decide)
    · exact absurd (halted.symm.trans off) (by decide)
  have loaded : (h.load files halting).failure = none := by decide +kernel
  obtain ⟨g, x, caption, last, shown', _, told_iff⟩ := caption_after_update loaded []
  cases shown.symm.trans shown'
  exact ⟨rfl, unpaused, halted, shown, truth, g, x, last, (told_iff (.inl unpaused)).mp truth⟩

/-- A halted machine is paused and goes on, and a program is loaded again in a pause. The caption
says neither that the machine has halted nor that the host is paused. -/
theorem caption_loses_remarks :
    let h : Host := { interpreter := { chance := fun _ => 0 } }
    let halting : Path := ⟨.here, ["halt.ch8"]⟩
    let files : Files := ⟨[(["halt.ch8"], .file [0x00, 0xEE])]⟩
    let pause : Event := .keyDown 112
    let reset : Event := .keyDown 1073741886
    let run : List HostCall := [.load files halting, .update, .handle files [pause],
      .handle files [pause], .update]
    let later := run ++ [.handle files [pause], .handle files [reset], .update]
    let told := "Cat's CHIP-8 Emulator - halt"
    start {} (fun _ => 0) (.ok ()) = .ok { host := h } ∧
      (h.load files halting).failure = none ∧
      (h.play run).paused = false ∧ (h.play run).halted = true ∧
      (captions (h.effects run)).getLast? = some told ∧ ¬(h.play run).TellsTruth told ∧
      (h.play later).paused = true ∧ (h.play later).halted = false ∧
      (captions (h.effects later)).getLast? = some told ∧ ¬(h.play later).TellsTruth told := by
  intro h halting files pause reset run later told
  have first : (h.load files halting).failure = none ∧
      (h.play run).paused = false ∧ (h.play run).halted = true ∧
      (captions (h.effects run)).getLast? = some told ∧ told = (h.play run).title := by
    decide +kernel
  have second : (h.play later).paused = true ∧ (h.play later).halted = false ∧
      (captions (h.effects later)).getLast? = some told ∧ told = (h.play later).title := by
    decide +kernel
  obtain ⟨loaded, unpaused, halted, shown, text⟩ := first
  obtain ⟨paused, going, shown', text'⟩ := second
  refine ⟨rfl, loaded, unpaused, halted, shown, fun truth => ?_, paused, going, shown',
    fun truth => ?_⟩
  · obtain ⟨fault, _, remarked⟩ := truth.halted unpaused halted
    exact (h.play run).halted_ne_title fault (remarked.symm.trans text)
  · exact (h.play later).paused_ne_title ((truth.paused paused going).symm.trans text')

end Host

end Chip8
