import Chip8.Host.Overlay
import Chip8.Proofs.Assembly
import Chip8.Proofs.Step

/-!
# What the overlay tells of the next step

The word at the program counter is looked at in two ways. The machine fetches it byte by byte and
faults at the first byte beyond memory; the overlay compares the program counter with the last
address of a word before it reads anything. The text next to the word is told apart from the
instruction, too. Looking yields an answer and no interpreter, so it leaves everything as it is.
Main statement: both see the same word, and what the overlay shows of it is what the next step does:
nothing if there is no word, a number if the word stands for no instruction, and otherwise the
instruction that is executed.
-/

namespace Chip8

open Text

/-- So many digits are written if the number has no more. -/
theorem Text.length_padded {width n : Nat} (wide : 0 < width) (fits : n < 16 ^ width) :
    (padded width n).length = width := by
  induction width generalizing n with
  | zero => omega
  | succ width ih =>
    by_cases more : 0 < width
    · rw [Nat.pow_succ] at fits
      have rest : (padded width (n / 16)).length = width := ih more (by omega)
      rw [padded_succ more, List.length_append, rest, List.length_singleton]
    · obtain rfl : width = 0 := by omega
      rw [padded_one ⟨n, fits⟩, List.length_singleton]

namespace Interpreter

/-- The line of the overlay for a word and its text. -/
def wordLine (w : Word) (text : String) : String :=
  s!"OP: ${hex 4 w.toNat} {text}"

/-- Whether the overlay shows a word and its text. -/
def Shows (i : Interpreter) (w : Word) (text : String) : Prop :=
  wordLine w text ∈ i.overlayLines

/-- Whether the overlay shows no word. -/
def ShowsNone (i : Interpreter) : Prop :=
  ∀ line ∈ i.overlayLines, ¬"OP:".toList <+: line.toList

/-- Whether the next step stops the machine at a fault before it executes anything. -/
structure StopsAt (i : Interpreter) (fault : Fault) : Prop where
  answer : i.step.answer = .error fault
  left : i.step.interpreter = i.stopped fault
  reports : i.step.reports = [.halted i.machine.registers.pc fault]

/-- Whether the next step executes an instruction, having told `first`. It comes to what the
instruction makes of the interpreter, and if the instruction faults the machine stops there. -/
structure CarriesOut (i : Interpreter) (instruction : Instruction) (first : Report) : Prop where
  done : (i.perform instruction).answer = .ok () →
    i.step.answer = .ok (i.perform instruction).interpreter.machine.runState ∧
    i.step.interpreter = (i.perform instruction).interpreter ∧
    i.step.reports = first :: (i.perform instruction).reports
  faulted : ∀ fault, (i.perform instruction).answer = .error fault →
    i.step.answer = .error fault ∧
    i.step.interpreter = (i.perform instruction).interpreter.stopped fault ∧
    i.step.reports = [first, .halted i.machine.registers.pc fault]

variable {i : Interpreter} {w : Word} {instruction : Instruction} {fault : Fault}

/-! ### Two looks at one word -/

/-- The word that is looked at is the one that is fetched. -/
theorem peekWord_eq (i : Interpreter) :
    i.peekWord = if 0xFFE < i.machine.pc then none else some i.machine.word := by
  have bound : 4094 < i.machine.registers.pc.toNat ↔ 0xFFE < i.machine.pc := by
    rw [Machine.pc]
    omega
  rw [peekWord]
  simp only [bound]
  by_cases beyond : 0xFFE < i.machine.pc
  · rw [if_pos beyond, if_pos beyond]
  · rw [if_neg beyond, if_neg beyond, Machine.word, Memory.wordAt, join_bytes]

/-- No word is looked at exactly when the fetch ends beyond memory. -/
theorem peekWord_eq_none_iff (i : Interpreter) :
    i.peekWord = none ↔ i.fetch = .error (.outOfBounds (max i.machine.pc 0x1000)) := by
  rw [peekWord_eq, fetch_eq]
  by_cases beyond : 0xFFE < i.machine.pc
  · rw [if_pos beyond, if_pos beyond]
    exact iff_of_true rfl rfl
  · rw [if_neg beyond, if_neg beyond]
    exact iff_of_false (Option.some_ne_none _) nofun

/-- A word is looked at exactly when it is fetched. -/
theorem peekWord_eq_some_iff (i : Interpreter) (w : Word) :
    i.peekWord = some w ↔ i.fetch = .ok w := by
  rw [peekWord_eq, fetch_eq]
  by_cases beyond : 0xFFE < i.machine.pc
  · rw [if_pos beyond, if_pos beyond]
    exact iff_of_false (Option.some_ne_none _).symm nofun
  · rw [if_neg beyond, if_neg beyond, Option.some.injEq, Except.ok.injEq]

/-- An instruction is seen exactly when a word is looked at and stands for it. -/
theorem peek_eq_ok_iff_peekWord (i : Interpreter) (w : Word) (instruction : Instruction) :
    i.peek = .ok (w, instruction) ↔
      i.peekWord = some w ∧ Instruction.decode w i.machine.pc = .ok instruction := by
  rw [peek_eq_ok_iff, peekWord_eq, Instruction.decode_eq_ok_iff, ← and_assoc]
  by_cases beyond : 0xFFE < i.machine.pc
  · have outside : ¬i.machine.pc ≤ 0xFFE := by omega
    simp [beyond, outside]
  · have inside : i.machine.pc ≤ 0xFFE := by omega
    simp [beyond, inside]

/-! ### What the overlay shows -/

/-- A word is that of its own number. -/
theorem ofInt_toNat (w : Word) : (UInt16.ofInt w.toNat : Word) = w := by
  have bound : w.toNat < 65536 := w.toNat_lt
  have number := Instruction.toNat_word w.toNat
  apply Word.eq_of_toNat
  omega

/-- A line tells its word and its text. -/
theorem wordLine_inj {w' : Word} {text text' : String}
    (same : wordLine w text = wordLine w' text') : w = w' ∧ text = text' := by
  have spelled : ∀ (w : Word) (text : String), (wordLine w text).toList =
      "OP: $".toList ++ (padded 4 w.toNat ++ (" ".toList ++ text.toList)) := by
    intro w text
    have parts : wordLine w text = "OP: $" ++ hex 4 w.toNat ++ " " ++ text := rfl
    rw [parts, String.toList_append, String.toList_append, String.toList_append, toList_hex,
      List.append_assoc, List.append_assoc]
  have letters := congrArg String.toList same
  rw [spelled, spelled] at letters
  have width : ∀ w : Word, (padded 4 w.toNat).length = 4 :=
    fun w => length_padded (by decide) w.toNat_lt
  obtain ⟨digits, rest⟩ := List.append_inj (List.append_cancel_left letters)
    ((width w).trans (width w').symm)
  have number : w.toNat = w'.toNat := padded_inj w.toNat_lt w'.toNat_lt digits
  have texts : text.toList = text'.toList := List.append_cancel_left rest
  exact ⟨Word.eq_of_toNat number, String.toList_injective texts⟩

/-- Only the last line of the overlay begins like one that shows a word. -/
theorem mem_overlayLines_iff {line : String} (begins : "OP:".toList <+: line.toList) :
    line ∈ i.overlayLines ↔ i.nextLine = some line := by
  rw [overlayLines, List.mem_append, Option.mem_toList]
  constructor
  · rintro (status | next)
    · simp only [List.mem_cons, List.not_mem_nil, or_false] at status
      rcases status with rfl | rfl | rfl | rfl <;> simp [toString] at begins
    · exact next
  · exact .inr

/-- A line that shows a word begins like one. -/
theorem begins_wordLine (w : Word) (text : String) : "OP:".toList <+: (wordLine w text).toList := by
  have parts : wordLine w text = "OP:" ++ (" $" ++ hex 4 w.toNat ++ " " ++ text) := by
    simp only [← String.append_assoc]
    rfl
  rw [parts, String.toList_append]
  exact List.prefix_append _ _

/-- The last line shows the word that is looked at. -/
theorem nextLine_eq_some_iff {line : String} :
    i.nextLine = some line ↔ ∃ w, i.peekWord = some w ∧ wordLine w (disassemble w.toNat) = line :=
  Option.map_eq_some_iff

/-- The overlay shows the word that is fetched, as it is disassembled. -/
theorem shows_iff {text : String} :
    i.Shows w text ↔ i.fetch = .ok w ∧ text = disassemble w.toNat := by
  rw [Shows, mem_overlayLines_iff (begins_wordLine w text), nextLine_eq_some_iff]
  constructor
  · rintro ⟨seen, fetched, same⟩
    obtain ⟨rfl, rfl⟩ := wordLine_inj same
    exact ⟨(i.peekWord_eq_some_iff seen).mp fetched, rfl⟩
  · rintro ⟨fetched, rfl⟩
    exact ⟨w, (i.peekWord_eq_some_iff w).mpr fetched, rfl⟩

/-- The overlay shows no word exactly when there is none to look at. -/
theorem showsNone_iff : i.ShowsNone ↔ i.peekWord = none := by
  constructor
  · intro silent
    cases seen : i.peekWord with
    | none => rfl
    | some w =>
      have shown : i.Shows w (disassemble w.toNat) :=
        shows_iff.mpr ⟨(i.peekWord_eq_some_iff w).mp seen, rfl⟩
      exact absurd (begins_wordLine w _) (silent _ shown)
  · intro missing line member begins
    obtain ⟨w, seen, -⟩ := nextLine_eq_some_iff.mp ((mem_overlayLines_iff begins).mp member)
    cases missing.symm.trans seen

/-! ### What the next step does -/

/-- Without an instruction to execute the machine stops. -/
theorem stopsAt_of_peek (running : i.machine.runState = .running) (unseen : i.peek = .error fault) :
    i.StopsAt fault := by
  have turn : i.step = i.halt i.machine.registers.pc fault [] := by
    simp only [step, running, stepRunning, unseen]
  exact ⟨by rw [turn]; rfl, by rw [turn]; rfl, by rw [turn]; rfl⟩

/-- The instruction that is seen is carried out. -/
theorem carriesOut_of_peek (running : i.machine.runState = .running)
    (seen : i.peek = .ok (w, instruction)) :
    i.CarriesOut instruction (.executing i.machine.registers.pc w instruction) := by
  have turn : i.step = i.stepRunning := by simp only [step, running]
  cases ran : (Work.carryOut instruction).run i with
  | error fault left =>
    have out : i.perform instruction = { answer := .error fault, interpreter := left } := by
      simp only [perform, ran]
    have halted : i.step = left.halt i.machine.registers.pc fault
        [.executing i.machine.registers.pc w instruction] := by
      rw [turn]
      simp only [stepRunning, seen, ran]
    rw [halt] at halted
    constructor
    · intro done
      rw [out] at done
      cases done
    · intro other failed
      rw [out] at failed ⊢
      cases failed
      rw [halted]
      exact ⟨rfl, rfl, rfl⟩
  | ok _ next =>
    have out : i.perform instruction =
        { answer := .ok (), interpreter := next, reports := instruction.reports } := by
      simp only [perform, ran]
    have went : i.step = {
        answer := .ok next.machine.runState
        interpreter := next
        reports := .executing i.machine.registers.pc w instruction :: instruction.reports } := by
      rw [turn]
      simp only [stepRunning, seen, ran]
    constructor
    · intro done
      rw [out, went]
      exact ⟨rfl, rfl, rfl⟩
    · intro fault failed
      rw [out] at failed
      cases failed

/-- What a step has told first when it carries out an instruction. -/
theorem CarriesOut.head? {first : Report} (carries : i.CarriesOut instruction first) :
    i.step.reports.head? = some first := by
  cases answer : (i.perform instruction).answer with
  | ok _ =>
    rw [(carries.done answer).2.2]
    rfl
  | error fault =>
    rw [(carries.faulted fault answer).2.2]
    rfl

/-- A fetched word that stands for no instruction stops the machine; any other is carried out. -/
theorem stops_or_carriesOut (running : i.machine.runState = .running) (fetched : i.fetch = .ok w) :
    Instruction.ofWord? w = none ∧ i.StopsAt (.invalidOpcode w.toNat i.machine.pc) ∨
    ∃ instruction, Instruction.ofWord? w = some instruction ∧
      i.CarriesOut instruction (.executing i.machine.registers.pc w instruction) := by
  cases known : Instruction.ofWord? w with
  | none =>
    have unseen : i.peek = .error (.invalidOpcode w.toNat i.machine.pc) := by
      simp only [peek, fetched, Instruction.decode_of_ofWord?_eq_none known]
      rfl
    exact .inl ⟨rfl, stopsAt_of_peek running unseen⟩
  | some instruction =>
    have decoded : Instruction.decode w i.machine.pc = .ok instruction :=
      (Instruction.decode_eq_ok_iff w _ instruction).mpr known
    have there : i.peekWord = some w := (i.peekWord_eq_some_iff w).mpr fetched
    have seen : i.peek = .ok (w, instruction) :=
      (i.peek_eq_ok_iff_peekWord w instruction).mpr ⟨there, decoded⟩
    exact .inr ⟨instruction, rfl, carriesOut_of_peek running seen⟩

/-- A running machine stops beyond memory, before it executes anything, exactly when there is no
word to look at. -/
theorem stopsAt_beyond_iff (running : i.machine.runState = .running) :
    i.StopsAt (.outOfBounds (max i.machine.pc 0x1000)) ↔ i.peekWord = none := by
  constructor
  · intro stops
    cases seen : i.peekWord with
    | none => rfl
    | some w =>
      have fetched := (i.peekWord_eq_some_iff w).mp seen
      rcases stops_or_carriesOut running fetched with ⟨-, refused⟩ | ⟨instruction, -, carries⟩
      · cases refused.answer.symm.trans stops.answer
      · have told := carries.head?
        rw [stops.reports] at told
        cases told
  · intro missing
    have unfetched := i.peekWord_eq_none_iff.mp missing
    apply stopsAt_of_peek running
    rw [peek, unfetched]

/-- The overlay foretells the next step. A word is there to look at exactly when it can be fetched,
and then it is the same word; an instruction is seen exactly when the word is there and stands for
it. The overlay shows no word exactly when there is none to look at, and of a running machine this
says that the next step ends beyond memory before it executes anything. If the overlay shows a word,
that is the one the next step fetches. A text that begins with question marks says that the word is
refused, and the step stops at it; any other text is that of the instruction that the step executes,
and the step tells the word and the text first. -/
theorem overlay_foretells_step (i : Interpreter) :
    let beyond := Fault.outOfBounds (max i.machine.pc 0x1000)
    (i.peekWord = none ↔ i.fetch = .error beyond) ∧
    (∀ w, i.peekWord = some w ↔ i.fetch = .ok w) ∧
    (∀ w instruction, i.peek = .ok (w, instruction) ↔
      i.peekWord = some w ∧ Instruction.decode w i.machine.pc = .ok instruction) ∧
    (i.ShowsNone ↔ i.peekWord = none) ∧
    (i.machine.runState = .running →
      (i.ShowsNone ↔ i.StopsAt beyond) ∧
      ∀ w text, i.Shows w text →
        i.fetch = .ok w ∧
        ("???".toList <+: text.toList → i.StopsAt (.invalidOpcode w.toNat i.machine.pc)) ∧
        (¬"???".toList <+: text.toList → ∃ instruction first,
          Instruction.decode w i.machine.pc = .ok instruction ∧
          i.CarriesOut instruction first ∧ first.level = .debug ∧
          first.text = s!"${hex 3 i.machine.registers.pc.toNat}  {hex 4 w.toNat}  {text}")) := by
  intro beyond
  refine ⟨i.peekWord_eq_none_iff, i.peekWord_eq_some_iff, i.peek_eq_ok_iff_peekWord,
    showsNone_iff, ?_⟩
  intro running
  constructor
  · rw [showsNone_iff, stopsAt_beyond_iff running]
  · intro w text shown
    obtain ⟨fetched, rfl⟩ := shows_iff.mp shown
    have refused := unknown_isPrefix_iff w.toNat
    rw [ofInt_toNat] at refused
    refine ⟨fetched, ?_, ?_⟩
    · intro marked
      rcases stops_or_carriesOut running fetched with ⟨-, stops⟩ | ⟨instruction, known, -⟩
      · exact stops
      · cases known.symm.trans (refused.mp marked)
    · intro plain
      rcases stops_or_carriesOut running fetched with ⟨unknown, -⟩ | ⟨instruction, known, carries⟩
      · exact absurd (refused.mpr unknown) plain
      · have text : disassemble w.toNat = instruction.text := by
          apply disassemble_of_some
          rw [ofInt_toNat, known]
        have decoded := (Instruction.decode_eq_ok_iff w i.machine.pc instruction).mpr known
        rw [text]
        exact ⟨instruction, _, decoded, carries, rfl, rfl⟩

/-- Three programs in front of a step: a word that stands for no instruction, a return without a
call, and a jump to the last byte of memory once it has been made. -/
theorem overlay_foretells_step_edges :
    let unknown := (({} : Interpreter).load [0x5A, 0xB1]).interpreter
    let returning := (({} : Interpreter).load [0x00, 0xEE]).interpreter
    let beyond := (({} : Interpreter).load [0x1F, 0xFF]).interpreter.step.interpreter
    unknown.Shows 0x5AB1 "??? $5AB1" ∧ unknown.StopsAt (.invalidOpcode 0x5AB1 0x200) ∧
      returning.Shows 0x00EE "RET" ∧ (∃ first, returning.CarriesOut .ret first) ∧
      (returning.perform .ret).answer = .error .stackUnderflow ∧
      beyond.machine.pc = 0xFFF ∧ beyond.ShowsNone ∧ beyond.StopsAt (.outOfBounds 0x1000) := by
  intro unknown returning beyond
  obtain ⟨-, -, -, -, foretold⟩ := overlay_foretells_step unknown
  obtain ⟨-, -, -, -, foretold'⟩ := overlay_foretells_step returning
  obtain ⟨-, -, -, silent, foretold''⟩ := overlay_foretells_step beyond
  have shown : unknown.Shows 0x5AB1 "??? $5AB1" := shows_iff.mpr (by decide +kernel)
  have shown' : returning.Shows 0x00EE "RET" := shows_iff.mpr (by decide +kernel)
  have none : beyond.ShowsNone := silent.mpr (by decide +kernel)
  have stops := ((foretold (by decide +kernel)).2 _ _ shown).2.1 (by decide)
  have pc : beyond.machine.pc = 0xFFF := by decide +kernel
  have stops' : beyond.StopsAt (.outOfBounds (max beyond.machine.pc 0x1000)) :=
    (foretold'' (by decide +kernel)).1.mp none
  rw [pc, max_eq_right (by decide)] at stops'
  obtain ⟨instruction, first, decoded, carries, -, -⟩ :=
    ((foretold' (by decide +kernel)).2 _ _ shown').2.2 (by decide)
  have ret : Instruction.decode 0x00EE returning.machine.pc = .ok .ret := by decide +kernel
  obtain rfl : .ret = instruction := Except.ok.inj (ret.symm.trans decoded)
  exact ⟨shown, stops, shown', ⟨first, carries⟩, by decide +kernel, pc, none, stops'⟩

end Interpreter

end Chip8
