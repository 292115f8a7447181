import Chip8.Host.Basic
import Chip8.Proofs.Peers

/-!
# Loading a program

A program that fits takes the place of everything that was there: a wait, a halt, a changed font and
the keys that are down leave no trace, and the interpreter goes on like a new one. A program that
does not fit is refused before anything is touched, and so is a file that cannot be read. Main
statement: loading is all or nothing, on an interpreter and on a host.
-/

namespace Chip8

namespace Memory

/-- Memory after a power-up holds the font at the bottom and zeros above it. -/
theorem byteAt_initial (a : Nat) :
    initial.byteAt a = if a < 80 then Font.glyphs.getD a 0 else 0 := by
  have blank : byteAt ⟨Vector.replicate 4096 0⟩ a = 0 := by
    simp only [byteAt, Vector.getElem?_replicate]
    split
    · rfl
    · rfl
  have length : Font.glyphs.length = 80 := rfl
  rw [initial, byteAt_putAll, blank, length, Font.address]
  by_cases font : a < 80
  · rw [if_pos (by omega), if_pos font, Nat.sub_zero]
  · rw [if_neg (by omega), if_neg font]

/-- Memory with a program holds the font, the program in its place, and zeros elsewhere. -/
theorem byteAt_program {program : List UInt8} (fits : program.length ≤ programLimit) (a : Nat) :
    (initial.putAll programStart program).byteAt a =
      if a < 80 then Font.glyphs.getD a 0
      else if a < 0x200 then 0
      else program.getD (a - 0x200) 0 := by
  rw [programLimit] at fits
  rw [byteAt_putAll, byteAt_initial, programStart]
  by_cases inside : 0x200 ≤ a ∧ a < 0x200 + program.length ∧ a < 4096
  · rw [if_pos inside, if_neg (by omega), if_neg (by omega)]
  · rw [if_neg inside]
    by_cases font : a < 80
    · rw [if_pos font, if_pos font]
    · rw [if_neg font, if_neg font]
      by_cases below : a < 0x200
      · rw [if_pos below]
      · rw [if_neg below, List.getD_eq_default _ _ (by omega)]

end Memory

namespace Machine

/-- The machine after a power-up with a program in memory. -/
def begun (program : List UInt8) : Machine :=
  { initial with memory := Memory.initial.putAll Memory.programStart program }

/-- Whether a machine is as after a power-up, but that a program lies in its memory. -/
structure BegunWith (program : List UInt8) (m : Machine) : Prop where
  memory : ∀ a, m.memory.byteAt a =
    if a < 80 then Font.glyphs.getD a 0
    else if a < 0x200 then 0
    else program.getD (a - 0x200) 0
  rest : m = { initial with memory := m.memory }

/-- This is the machine that a program begins on. -/
theorem begunWith_begun {program : List UInt8} (fits : program.length ≤ Memory.programLimit) :
    (begun program).BegunWith program where
  memory := Memory.byteAt_program fits
  rest := rfl

end Machine

namespace Interpreter

/-! ### Programs that fit and programs that do not -/

/-- A program that fits begins on a machine of its own. -/
theorem load_of_fits (i : Interpreter) {program : List UInt8}
    (fits : program.length ≤ Memory.programLimit) :
    i.load program = {
      answer := .ok ()
      interpreter := i.replaceMachine (Machine.begun program)
      reports := [.reset, .programLoaded program.length] } := by
  have accepted : Memory.checkProgram program = .ok () := if_neg (Nat.not_lt.mpr fits)
  rw [load, Memory.loadProgram, accepted]
  rfl

/-- A program that does not fit changes nothing. -/
theorem load_of_long (i : Interpreter) {program : List UInt8}
    (long : Memory.programLimit < program.length) :
    i.load program = {
      answer := .error (.romTooLarge program.length Memory.programLimit)
      interpreter := i } := by
  have refused : Memory.checkProgram program =
      .error (.romTooLarge program.length Memory.programLimit) := if_pos long
  rw [load, Memory.loadProgram, refused]

/-! ### Going on like a new interpreter -/

/-- Actions keep the dialect and the source of random bytes. -/
theorem sameOrigin_play (i : Interpreter) (actions : List Action) :
    (i.play actions).SameOrigin i := by
  induction actions generalizing i with
  | nil => exact ⟨rfl, rfl⟩
  | cons action actions ih => exact (ih _).trans (i.sameOrigin_act action)

/-- A screen that is marked to be shown stays marked until it is shown. -/
theorem redraw_play {i : Interpreter} (marked : i.redraw = true) (actions : List Action) :
    (i.play actions).redraw = true := by
  have stepped : ∀ j : Interpreter, j.redraw = true → j.step.interpreter.redraw = true := by
    intro j marked
    have amounts := j.stepped
    generalize j.step.answer = answer, j.step.interpreter = next at amounts
    cases amounts with
    | executed w instruction next running seen ran =>
      obtain ⟨machine, done, rfl⟩ := ok_of_map_ok ran
      exact Bool.or_eq_true_iff.mpr (.inr marked)
    | _ => exact marked
  induction actions generalizing i with
  | nil => exact marked
  | cons action actions ih =>
    exact ih (act_keeps (P := fun j => j.redraw = true) stepped (fun _ kept => kept)
      (fun _ _ kept => kept) (fun _ _ kept => kept) action i marked)

/-- Peers with the same mark on the screen differ in nothing but the random bytes taken before. -/
theorem Peer.eq {ahead : Nat} {i j : Interpreter} (peer : Peer ahead i j)
    (mark : i.redraw = j.redraw) : i = { j with chance := i.chance, taken := ahead + j.taken } := by
  rw [← peer.taken, ← peer.machine, ← peer.dialect, ← mark]

/-- After a program that fits was loaded, an interpreter answers all actions like a new one with the
same dialect, the same program and the same random bytes, and becomes the same. -/
theorem play_load (i : Interpreter) {program : List UInt8}
    (fits : program.length ≤ Memory.programLimit) (actions : List Action) :
    let loaded := (i.load program).interpreter
    let new := ((Bench.fresh i.dialect fun n => i.chance (i.taken + n)).interpreter.load
      program).interpreter
    loaded.answers actions = new.answers actions ∧
      loaded.play actions =
        { new.play actions with
          chance := i.chance
          taken := i.taken + (new.play actions).taken } := by
  intro loaded new
  have here : loaded = i.replaceMachine (Machine.begun program) := by
    simp only [loaded, i.load_of_fits fits]
  have there : new = (Bench.fresh i.dialect fun n =>
      i.chance (i.taken + n)).interpreter.replaceMachine (Machine.begun program) := by
    simp only [new, load_of_fits _ fits]
  -- The bytes to come are the same ones, counted from where the old interpreter stood.
  have peer : Peer i.taken loaded new := by
    rw [here, there]
    refine ⟨rfl, rfl, fun n => ?_, rfl⟩
    change i.chance (i.taken + n) = i.chance (i.taken + (0 + n))
    rw [Nat.zero_add]
  have source : (loaded.play actions).chance = i.chance := by
    rw [(loaded.sameOrigin_play actions).2, here]
    rfl
  have mark : loaded.redraw = true ∧ new.redraw = true := by
    rw [here, there]
    exact ⟨rfl, rfl⟩
  obtain ⟨answers, last⟩ := (Peer.lockstep i.taken).play peer actions
  have same := last.eq ((redraw_play mark.1 actions).trans (redraw_play mark.2 actions).symm)
  rw [source] at same
  exact ⟨answers.symm, same⟩

end Interpreter

/-! ### Files -/

namespace Files

/-- Whether a path leads to an entry of the tree. -/
def LeadsTo (fs : Files) (path : Path) (entry : Entry) : Prop :=
  ∃ place, fs.locate path = .ok place ∧ fs.entry? place = some entry

/-- Whether there is nothing where a path leads. -/
def Lacks (fs : Files) (path : Path) : Prop :=
  fs.locate path = .error .missing ∨ ∃ place, fs.locate path = .ok place ∧ fs.entry? place = none

/-- Whether a path leads to a program that fits into memory. -/
def Offers (fs : Files) (path : Path) (program : List UInt8) : Prop :=
  fs.LeadsTo path (.file program) ∧ program.length ≤ Memory.programLimit

variable {fs : Files} {path : Path}

/-- What a path leads to can be read if it is a file. -/
theorem read_of_file {bytes : List UInt8} (found : fs.LeadsTo path (.file bytes)) :
    fs.read path = .ok bytes := by
  obtain ⟨place, located, entry⟩ := found
  simp only [read, located, entry]

/-- A directory cannot be read. -/
theorem read_of_directory (found : fs.LeadsTo path .directory) :
    fs.read path = .error ⟨.isDirectory, path⟩ := by
  obtain ⟨place, located, entry⟩ := found
  simp only [read, located, entry]

/-- What is not there cannot be read. -/
theorem read_of_lacks (lacking : fs.Lacks path) : fs.read path = .error ⟨.missing, path⟩ := by
  rcases lacking with lost | ⟨place, located, entry⟩
  · simp only [read, lost]
  · simp only [read, located, entry]

/-- Only a file can be read. -/
theorem leadsTo_of_read {bytes : List UInt8} (read : fs.read path = .ok bytes) :
    fs.LeadsTo path (.file bytes) := by
  rw [Files.read] at read
  cases located : fs.locate path with
  | error problem =>
    rw [located] at read
    cases read
  | ok place =>
    rw [located] at read
    cases entry : fs.entry? place with
    | none =>
      simp only [entry] at read
      cases read
    | some found =>
      cases found with
      | directory =>
        simp only [entry] at read
        cases read
      | file content =>
        simp only [entry] at read
        cases read
        exact ⟨place, located, entry⟩

end Files

/-! ### Loading a file into the machine of a host -/

namespace Host

/-- The host after a program was loaded. -/
def withProgram (h : Host) (path : Path) (program : List UInt8) : Host :=
  { h with
    interpreter := h.interpreter.replaceMachine (Machine.begun program)
    programPath := some path
    programName := path.stem }

variable {files : Files} {path : Path}

/-- A program that is offered is loaded. -/
theorem load_of_offers (h : Host) {program : List UInt8} (offered : files.Offers path program) :
    h.load files path = {
      host := h.withProgram path program
      effects := reported [.fileRead program.length path.text, .reset,
        .programLoaded program.length] ++ [(h.withProgram path program).setCaption ""] } := by
  rw [load, Interpreter.loadFile, Files.read_of_file offered.1]
  simp only [h.interpreter.load_of_fits offered.2]
  rfl

/-- A file that cannot be read is not loaded. -/
theorem load_of_unreadable (h : Host) {error : FileError}
    (unreadable : files.read path = .error error) :
    h.load files path = { failure := some (.file error), host := h } := by
  rw [load, Interpreter.loadFile, unreadable]
  rfl

/-- A file that is too large is not loaded. -/
theorem load_of_too_large (h : Host) {bytes : List UInt8}
    (found : files.LeadsTo path (.file bytes)) (long : Memory.programLimit < bytes.length) :
    h.load files path = {
      failure := some (.fault (.romTooLarge bytes.length Memory.programLimit))
      host := h
      effects := reported [.fileRead bytes.length path.text] } := by
  rw [load, Interpreter.loadFile, Files.read_of_file found]
  simp only [h.interpreter.load_of_long long]
  rfl

/-- A program is loaded, or the load fails on every host and nothing comes of it but reports. -/
theorem load_cases (files : Files) (path : Path) :
    (∃ program, files.Offers path program) ∨
      ∃ error reports, ∀ h : Host, h.load files path =
        { failure := some error, host := h, effects := reported reports } := by
  cases read : files.read path with
  | error error => exact .inr ⟨.file error, [], fun h => h.load_of_unreadable read⟩
  | ok bytes =>
    have found := Files.leadsTo_of_read read
    by_cases fits : bytes.length ≤ Memory.programLimit
    · exact .inl ⟨bytes, found, fits⟩
    · exact .inr ⟨_, _, fun h => h.load_of_too_large found (Nat.lt_of_not_le fits)⟩

/-- A load that fails leaves the host as it was, and nothing comes of it but reports. -/
theorem load_of_failure {h : Host} (failed : (h.load files path).failure ≠ none) :
    (h.load files path).host = h ∧
      ∃ reports, (h.load files path).effects = reported reports := by
  rcases load_cases files path with ⟨program, offered⟩ | ⟨error, reports, refused⟩
  · rw [h.load_of_offers offered] at failed
    exact absurd rfl failed
  · rw [refused h]
    exact ⟨rfl, reports, rfl⟩

end Host

/-- A program that fits makes of any interpreter, whatever happened to it before, one that holds
nothing but the program and goes on like a new one with the same random bytes; a program that does
not fit changes nothing. A host that is asked for a file that is missing, is a directory or is too
large says so, stays as it was, and shows and sounds nothing. -/
theorem load_all_or_nothing :
    (∀ (i : Interpreter) (program : List UInt8), program.length ≤ 3584 →
      let loaded := (i.load program).interpreter
      let new := ((Bench.fresh i.dialect fun n => i.chance (i.taken + n)).interpreter.load
        program).interpreter
      (i.load program).answer = .ok () ∧ loaded.machine.BegunWith program ∧
      ∀ actions, loaded.answers actions = new.answers actions ∧
        loaded.play actions =
          { new.play actions with
            chance := i.chance
            taken := i.taken + (new.play actions).taken }) ∧
    (∀ (i : Interpreter) (program : List UInt8), 3584 < program.length →
      (i.load program).answer = .error (.romTooLarge program.length 3584) ∧
        (i.load program).interpreter = i) ∧
    ∀ (h : Host) (files : Files) (path : Path),
      (files.Lacks path → (h.load files path).failure = some (.file ⟨.missing, path⟩)) ∧
      (files.LeadsTo path .directory →
        (h.load files path).failure = some (.file ⟨.isDirectory, path⟩)) ∧
      (∀ bytes, files.LeadsTo path (.file bytes) → 3584 < bytes.length →
        (h.load files path).failure = some (.fault (.romTooLarge bytes.length 3584))) ∧
      ((h.load files path).failure ≠ none →
        (h.load files path).host = h ∧
          ∃ reports, (h.load files path).effects = Host.reported reports) := by
  refine ⟨?fits, ?long, ?host⟩
  case fits =>
    intro i program fits
    have machine : (i.load program).interpreter.machine = Machine.begun program := by
      rw [i.load_of_fits fits]
      rfl
    refine ⟨by rw [i.load_of_fits fits], ?_, i.play_load fits⟩
    rw [machine]
    exact Machine.begunWith_begun fits
  case long =>
    intro i program long
    rw [i.load_of_long long]
    exact ⟨rfl, rfl⟩
  case host =>
    intro h files path
    refine ⟨fun lacking => ?_, fun directory => ?_, fun bytes found long => ?_, Host.load_of_failure⟩
    · rw [h.load_of_unreadable (Files.read_of_lacks lacking)]
    · rw [h.load_of_unreadable (Files.read_of_directory directory)]
    · rw [h.load_of_too_large found long]
      rfl

/-- An interpreter that waits for a key, with a key down and a program changed in memory, is given a
short program and one that is a byte too long; a host is asked for a file that is not there, for a
directory and for the long program. -/
theorem load_all_or_nothing_waiting :
    let i := ((Bench.fresh {} fun _ => 7).run [.load [0xC1, 0xFF, 0xF3, 0x0A], .act .step,
      .act (.keyDown 1), .act .step]).interpreter
    let short : List UInt8 := [0x12, 0x00]
    let long : List UInt8 := List.replicate 3585 0
    let files : Files := ⟨[(["games"], .directory), (["long.ch8"], .file long)]⟩
    let pathOf (name : String) : Path := ⟨.here, [name]⟩
    i.machine.runState = .awaitingKey ∧ i.taken = 1 ∧
      (i.load short).interpreter.machine.BegunWith short ∧ (i.load long).interpreter = i ∧
      ∀ h : Host,
        (h.load files (pathOf "gone.ch8")).failure =
          some (.file ⟨.missing, pathOf "gone.ch8"⟩) ∧
        (h.load files (pathOf "games")).failure = some (.file ⟨.isDirectory, pathOf "games"⟩) ∧
        (h.load files (pathOf "long.ch8")).failure = some (.fault (.romTooLarge 3585 3584)) := by
  intro i short long files pathOf
  obtain ⟨whenFits, whenLong, onHost⟩ := load_all_or_nothing
  have length : long.length = 3585 := List.length_replicate
  have beyond : 3584 < long.length := by omega
  have gone : files.Lacks (pathOf "gone.ch8") := .inl (by decide +kernel)
  have directory : files.LeadsTo (pathOf "games") .directory :=
    ⟨["games"], by decide +kernel, by decide +kernel⟩
  have tooLong : files.LeadsTo (pathOf "long.ch8") (.file long) :=
    ⟨["long.ch8"], by decide +kernel, rfl⟩
  have evaluated : i.machine.runState = .awaitingKey ∧ i.taken = 1 := by decide +kernel
  refine ⟨evaluated.1, evaluated.2, (whenFits i short (by decide)).2.1,
    (whenLong i long beyond).2, fun h => ⟨(onHost h files _).1 gone, (onHost h files _).2.1 directory,
    ?_⟩⟩
  have refused := (onHost h files _).2.2.1 long tooLong beyond
  rw [length] at refused
  exact refused

end Chip8
