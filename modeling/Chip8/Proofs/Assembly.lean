import Chip8.Instruction.Text
import Chip8.Proofs.Grammar
import Mathlib.Data.Int.ModEq

/-!
# Words in assembly notation

Every pattern of the grammar has a line in which its instructions are written. A line has gaps for
the registers and ends in the number, if the pattern has one, and words that stand for no
instruction have a line of their own. Main statement: nothing of a word is lost when it is written.
The lines show every operand that their patterns have, and two lines differ in a letter before
either of them has come to its number, so that two integers are written alike exactly when their
low sixteen bits are the same.
-/

namespace Chip8

open Text

/-! ### Digits -/

namespace Text

/-- A digit of base sixteen. -/
def digitOf (d : Nibble) : Char :=
  (Nat.digitChar d).toUpper

/-- No two digits look alike. -/
theorem digitOf_inj {d e : Nibble} (same : digitOf d = digitOf e) : d = e := by
  revert d e
  decide +kernel

/-- A number in base sixteen, filled with zeros up to `width` digits. -/
def padded (width n : Nat) : List Char :=
  (hexDigits n).leftpad width '0'

/-- A number that is not negative is written without a sign. -/
theorem toList_hex (width n : Nat) : (hex width n).toList = padded width n := by
  have positive : ¬(n : Int) < 0 := by omega
  rw [hex, if_neg positive, Int.natAbs_natCast, String.toList_ofList, padded]

/-- A number below sixteen is one digit. -/
theorem padded_one (d : Nibble) : padded 1 d = [digitOf d] := by
  rw [padded, hexDigits, Nat.toDigits_of_lt_base d.isLt]
  rfl

/-- The last digit stands behind the others. -/
theorem padded_succ {width : Nat} (wide : 0 < width) (n : Nat) :
    padded (width + 1) n = padded width (n / 16) ++ [digitOf (Nibble.ofNat n)] := by
  by_cases small : n < 16
  · obtain ⟨more, rfl⟩ : ∃ more, width = more + 1 := ⟨width - 1, by omega⟩
    have rest : n / 16 = 0 := by omega
    have digit : digitOf (Nibble.ofNat n) = (Nat.digitChar n).toUpper :=
      congrArg (fun d => (Nat.digitChar d).toUpper) (Nat.mod_eq_of_lt small)
    rw [padded, padded, hexDigits, hexDigits, rest, Nat.toDigits_zero,
      Nat.toDigits_of_lt_base small, digit]
    simp [List.leftpad, List.replicate_succ']
  · have split : hexDigits n = hexDigits (n / 16) ++ [digitOf (Nibble.ofNat n)] := by
      rw [hexDigits, hexDigits, Nat.toDigits_of_base_le (by decide) (by omega), List.map_append]
      rfl
    rw [padded, padded, split]
    simp [List.leftpad]

/-- Numbers that fit the same width are told apart by their digits. -/
theorem padded_inj {width m n : Nat} (first : m < 16 ^ width) (second : n < 16 ^ width)
    (same : padded width m = padded width n) : m = n := by
  induction width generalizing m n with
  | zero => omega
  | succ width ih =>
    rw [Nat.pow_succ] at first second
    by_cases wide : 0 < width
    · rw [padded_succ wide, padded_succ wide] at same
      obtain ⟨rest, last⟩ := List.append_inj' same rfl
      have high : m / 16 = n / 16 := ih (by omega) (by omega) rest
      have low : m % 16 = n % 16 := congrArg Fin.val (digitOf_inj (List.cons.inj last).1)
      omega
    · obtain rfl : width = 0 := by omega
      have left := padded_one ⟨m, by omega⟩
      have right := padded_one ⟨n, by omega⟩
      rw [left, right] at same
      exact congrArg Fin.val (digitOf_inj (List.cons.inj same).1)

end Text

/-! ### Lines -/

/-- A character of a line: a letter, or the digit of a register. -/
inductive Sign where
  | letter (c : Char)
  | x
  | y
  deriving DecidableEq

/-- What a line ends in. -/
inductive Ending where
  | nothing
  /-- The number, in so many digits of base sixteen. -/
  | digits (width : Nat)
  /-- The number, in base ten. -/
  | decimal
  deriving DecidableEq

namespace Ending

/-- What stands at the end for a number. -/
def fill (n : Nat) : Ending → List Char
  | .nothing => []
  | .digits width => padded width n
  | .decimal => (toString n).toList

/-- How many digits of base sixteen a number may have to be told from what stands at the end. -/
def room : Ending → Nat
  | .nothing => 0
  | .digits width => width
  | .decimal => 1

/-- A number for which there is room is told from what stands at the end. -/
theorem fill_inj {ending : Ending} {m n : Nat} (first : m < 16 ^ ending.room)
    (second : n < 16 ^ ending.room) (same : ending.fill m = ending.fill n) : m = n := by
  cases ending with
  | nothing =>
    rw [room] at first second
    omega
  | digits width => exact padded_inj first second same
  | decimal =>
    have read (k : Nat) : Nat.ofDigitChars 10 (toString k).toList 0 = k := by
      rw [Nat.toString_eq_repr, Nat.toList_repr, Nat.ofDigitChars_toDigits (by decide) (by decide)]
    have numbers := congrArg (fun digits => Nat.ofDigitChars 10 digits 0) same
    simpa only [fill, read] using numbers

end Ending

/-- The form in which the instructions of a pattern are written. -/
structure Line where
  signs : List Sign
  ending : Ending := .nothing
  deriving DecidableEq

namespace Sign

/-- The character that some operands put in a place. -/
def fill (o : Operands) : Sign → Char
  | .letter c => c
  | .x => digitOf o.x
  | .y => digitOf o.y

/-- A text without gaps. -/
def spell (s : String) : List Sign :=
  s.toList.map .letter

/-- The name of a register. -/
def register (gap : Sign) : List Sign :=
  [.letter 'V', gap]

/-- Whether two lines have different letters in the same place. A gap takes one character, so the
places behind it stay in step. -/
def clash : List Sign → List Sign → Bool
  | .letter c :: ss, .letter d :: ts => c ≠ d || clash ss ts
  | _ :: ss, _ :: ts => clash ss ts
  | _, _ => false

@[simp] theorem map_fill_spell (o : Operands) (s : String) : (spell s).map (fill o) = s.toList := by
  simp [spell, Function.comp_def, fill]

@[simp] theorem map_fill_register (o : Operands) (gap : Sign) :
    (register gap).map (fill o) = ['V', gap.fill o] := rfl

/-- Lines that clash are not filled alike, whatever stands behind them. -/
theorem ne_of_clash {ss ts : List Sign} (clashing : clash ss ts = true) (o o' : Operands)
    (rest rest' : List Char) : ss.map (fill o) ++ rest ≠ ts.map (fill o') ++ rest' := by
  fun_induction clash ss ts with
  | case1 c ss d ts ih =>
    intro same
    obtain ⟨head, tail⟩ := List.cons.inj same
    have letter : c = d := head
    simp only [letter, ne_eq, not_true_eq_false, decide_false, Bool.false_or] at clashing
    exact ih clashing tail
  | case2 s ss t ts _ ih =>
    intro same
    exact ih clashing (List.cons.inj same).2
  | case3 => cases clashing

end Sign

namespace Line

open Sign

/-- A line with its gaps filled by some operands. -/
def fill (l : Line) (o : Operands) : List Char :=
  l.signs.map (Sign.fill o) ++ l.ending.fill o.number

/-- A line for an address behind a text. -/
def address (s : String) : Line :=
  ⟨spell s ++ spell "$", .digits 3⟩

/-- A line for a register and a byte. -/
def byte (s : String) : Line :=
  ⟨spell s ++ register .x ++ spell ", $", .digits 2⟩

/-- A line for two registers. -/
def pair (s : String) : Line :=
  ⟨spell s ++ register .x ++ spell ", " ++ register .y, .nothing⟩

/-- A line for two registers and a number. -/
def sprite (s : String) : Line :=
  ⟨spell s ++ register .x ++ spell ", " ++ register .y ++ spell ", ", .decimal⟩

/-- A line for a register between two texts. -/
def single (s behind : String) : Line :=
  ⟨spell s ++ register .x ++ spell behind, .nothing⟩

/-- The lines of all patterns. -/
def table : List (Pattern × Line) := [
  (⟨0, 0, 0xE, 0⟩, ⟨spell "CLS", .nothing⟩),
  (⟨0, 0, 0xE, 0xE⟩, ⟨spell "RET", .nothing⟩),
  (⟨0, .n, .n, .n⟩, address "SYS "),
  (⟨1, .n, .n, .n⟩, address "JP "),
  (⟨2, .n, .n, .n⟩, address "CALL "),
  (⟨3, .x, .n, .n⟩, byte "SE "),
  (⟨4, .x, .n, .n⟩, byte "SNE "),
  (⟨5, .x, .y, 0⟩, pair "SE "),
  (⟨6, .x, .n, .n⟩, byte "LD "),
  (⟨7, .x, .n, .n⟩, byte "ADD "),
  (⟨8, .x, .y, 0⟩, pair "LD "),
  (⟨8, .x, .y, 1⟩, pair "OR "),
  (⟨8, .x, .y, 2⟩, pair "AND "),
  (⟨8, .x, .y, 3⟩, pair "XOR "),
  (⟨8, .x, .y, 4⟩, pair "ADD "),
  (⟨8, .x, .y, 5⟩, pair "SUB "),
  (⟨8, .x, .y, 6⟩, pair "SHR "),
  (⟨8, .x, .y, 7⟩, pair "SUBN "),
  (⟨8, .x, .y, 0xE⟩, pair "SHL "),
  (⟨9, .x, .y, 0⟩, pair "SNE "),
  (⟨0xA, .n, .n, .n⟩, address "LD I, "),
  (⟨0xB, .n, .n, .n⟩, address "JP V0, "),
  (⟨0xC, .x, .n, .n⟩, byte "RND "),
  (⟨0xD, .x, .y, .n⟩, sprite "DRW "),
  (⟨0xE, .x, 9, 0xE⟩, single "SKP " ""),
  (⟨0xE, .x, 0xA, 1⟩, single "SKNP " ""),
  (⟨0xF, .x, 0, 7⟩, single "LD " ", DT"),
  (⟨0xF, .x, 0, 0xA⟩, single "LD " ", K"),
  (⟨0xF, .x, 1, 5⟩, single "LD DT, " ""),
  (⟨0xF, .x, 1, 8⟩, single "LD ST, " ""),
  (⟨0xF, .x, 1, 0xE⟩, single "ADD I, " ""),
  (⟨0xF, .x, 2, 9⟩, single "LD F, " ""),
  (⟨0xF, .x, 3, 3⟩, single "LD B, " ""),
  (⟨0xF, .x, 5, 5⟩, single "LD [I], " ""),
  (⟨0xF, .x, 6, 5⟩, single "LD " ", [I]")]

end Line

/-- The line of a pattern. -/
def Pattern.line (p : Pattern) : Line :=
  (Line.table.lookup p).getD ⟨[], .nothing⟩

namespace Line

open Sign Pattern

/-- Whether a line shows every operand that the words of a pattern have. -/
def Shows (l : Line) (p : Pattern) : Prop :=
  (.x ∈ p.places → .x ∈ l.signs) ∧ (.y ∈ p.places → .y ∈ l.signs) ∧
    p.places.count .n = l.ending.room

instance (l : Line) (p : Pattern) : Decidable (l.Shows p) :=
  inferInstanceAs (Decidable (_ ∧ _ ∧ _))

/-- Every line shows the operands of its pattern. -/
theorem shows_line : ∀ p ∈ grammar, p.line.Shows p := by
  decide +kernel

/-- The lines of two patterns clash. -/
theorem clash_line : ∀ p ∈ grammar, ∀ q ∈ grammar,
    p = q ∨ clash p.line.signs q.line.signs = true := by
  decide +kernel

/-- No line begins like that of the words that stand for no instruction. -/
theorem clash_unknown : ∀ p ∈ grammar, clash (spell "???") p.line.signs = true := by
  decide +kernel

/-- A line that shows the operands of a pattern tells them. -/
theorem fill_inj {l : Line} {p : Pattern} (shows : l.Shows p) {o o' : Operands}
    (takes : p.Takes o) (takes' : p.Takes o') (same : l.fill o = l.fill o') : o = o' := by
  obtain ⟨first, second, number⟩ := shows
  have lengths : (l.signs.map (Sign.fill o)).length = (l.signs.map (Sign.fill o')).length := by
    rw [List.length_map, List.length_map]
  obtain ⟨signs, ending⟩ := List.append_inj same lengths
  have alike : ∀ s ∈ l.signs, s.fill o = s.fill o' := List.map_inj_left.mp signs
  have bound := takes.number
  have bound' := takes'.number
  rw [number] at bound bound'
  have x : o.x = o'.x := by
    by_cases shown : .x ∈ p.places
    · exact digitOf_inj (alike .x (first shown))
    · rw [takes.x shown, takes'.x shown]
  have y : o.y = o'.y := by
    by_cases shown : .y ∈ p.places
    · exact digitOf_inj (alike .y (second shown))
    · rw [takes.y shown, takes'.y shown]
  cases o with
  | mk ox oy on =>
    cases o' with
    | mk ox' oy' on' =>
      have n : on = on' := Ending.fill_inj bound bound' ending
      rw [show ox = ox' from x, show oy = oy' from y, n]

end Line

/-! ### Texts -/

/-- The name of a register is its digit behind a letter. -/
theorem Register.toList_name (x : Register) : x.name.toList = ['V', digitOf x] := by
  have digit : (hex 1 x.val).toList = [digitOf x] := by rw [toList_hex, padded_one]
  have name : x.name = "V" ++ hex 1 x.val := rfl
  rw [name, String.toList_append, digit]
  rfl

/-- An address is written as a dollar sign and three digits. -/
theorem Address.toList_text (a : Address) : a.text.toList = '$' :: padded 3 a := by
  have text : a.text = "$" ++ hex 3 a.val := rfl
  rw [text, String.toList_append, toList_hex]
  rfl

/-- A byte is written as a dollar sign and two digits. -/
theorem toList_byteText (b : UInt8) : (byteText b).toList = '$' :: padded 2 b.toNat := by
  have text : byteText b = "$" ++ hex 2 b.toNat := rfl
  rw [text, String.toList_append, toList_hex]
  rfl

namespace Line

/-- The text of an instruction with an address fills the line for one. -/
theorem fill_address (s : String) (a : Address) :
    (s ++ a.text).toList = (address s).fill { number := a } := by
  simp [address, fill, Ending.fill, Address.toList_text]

/-- The text of an instruction with a register and a byte fills the line for both. -/
theorem fill_byte (s : String) (x : Register) (b : UInt8) :
    (s ++ x.name ++ ", " ++ byteText b).toList = (byte s).fill { x := x, number := b.toNat } := by
  simp [byte, fill, Ending.fill, Sign.fill, Register.toList_name, toList_byteText]

/-- The text of an instruction with two registers fills the line for them. -/
theorem fill_pair (s : String) (x y : Register) :
    (s ++ x.name ++ ", " ++ y.name).toList = (pair s).fill { x := x, y := y } := by
  simp [pair, fill, Ending.fill, Sign.fill, Register.toList_name]

/-- The text of a drawing fills its line; the number of rows is written in decimal. -/
theorem fill_sprite (s : String) (x y : Register) (rows : Nibble) :
    (s ++ x.name ++ ", " ++ y.name ++ ", " ++ toString rows.val).toList =
      (sprite s).fill { x := x, y := y, number := rows } := by
  simp [sprite, fill, Ending.fill, Sign.fill, Register.toList_name]

/-- The text of an instruction with a register among other words fills its line. -/
theorem fill_single (s behind : String) (x : Register) :
    (s ++ x.name ++ behind).toList = (single s behind).fill { x := x } := by
  simp [single, fill, Ending.fill, Sign.fill, Register.toList_name]

/-- The text of an instruction that ends with its register fills its line. -/
theorem fill_last (s : String) (x : Register) :
    (s ++ x.name).toList = (single s "").fill { x := x } := by
  rw [← fill_single, String.append_empty]

end Line

namespace Instruction

open Line

/-- The line of an operation on two registers begins with the name of the operation. -/
theorem line_alu (op : AluOp) (x y : Register) :
    (alu op x y).pattern.line = Line.pair (op.mnemonic ++ " ") := by
  cases op with
  | _ =>
    simp only [pattern]
    decide +kernel

/-- The text of an instruction is the line of its pattern, with its operands in the gaps. -/
theorem toList_text (instruction : Instruction) :
    instruction.text.toList = instruction.pattern.line.fill instruction.operands := by
  cases instruction with
  | clear => rfl
  | ret => rfl
  | hostRoutine address => exact fill_address "SYS " address
  | jump target => exact fill_address "JP " target
  | call target => exact fill_address "CALL " target
  | jumpOffset base => exact fill_address "JP V0, " base
  | setIndex address => exact fill_address "LD I, " address
  | skip condition =>
    cases condition with
    | equalsByte x byte => exact fill_byte "SE " x byte
    | differsFromByte x byte => exact fill_byte "SNE " x byte
    | equals x y => exact fill_pair "SE " x y
    | differs x y => exact fill_pair "SNE " x y
    | keyDown x => exact fill_last "SKP " x
    | keyUp x => exact fill_last "SKNP " x
  | loadByte x byte => exact fill_byte "LD " x byte
  | addByte x byte => exact fill_byte "ADD " x byte
  | random x mask => exact fill_byte "RND " x mask
  | alu op x y =>
    rw [line_alu]
    exact fill_pair (op.mnemonic ++ " ") x y
  | draw x y rows => exact fill_sprite "DRW " x y rows
  | readDelay x => exact fill_single "LD " ", DT" x
  | awaitKey x => exact fill_single "LD " ", K" x
  | setDelay x => exact fill_last "LD DT, " x
  | setSound x => exact fill_last "LD ST, " x
  | addIndex x => exact fill_last "ADD I, " x
  | pointAtGlyph x => exact fill_last "LD F, " x
  | storeDecimal x => exact fill_last "LD B, " x
  | storeRegisters x => exact fill_last "LD [I], " x
  | loadRegisters x => exact fill_single "LD " ", [I]" x

/-- Instructions that show all of their operands are written alike only if they have the same
pattern and the same operands. -/
theorem text_inj {i j : Instruction} (takes : i.pattern.Takes i.operands)
    (takes' : j.pattern.Takes j.operands) (same : i.text = j.text) :
    i.pattern = j.pattern ∧ i.operands = j.operands := by
  have filled : i.pattern.line.fill i.operands = j.pattern.line.fill j.operands := by
    rw [← toList_text, ← toList_text, same]
  rcases clash_line _ i.pattern_mem_grammar _ j.pattern_mem_grammar with pattern | clashing
  · have shows := shows_line _ i.pattern_mem_grammar
    rw [← pattern] at filled takes'
    exact ⟨pattern, fill_inj shows takes takes' filled⟩
  · exact absurd filled (Sign.ne_of_clash clashing _ _ _ _)

/-- No instruction is written like a word that stands for none. -/
theorem not_unknown_isPrefix (i : Instruction) : ¬"???".toList <+: i.text.toList := by
  rintro ⟨rest, begins⟩
  have clashing := clash_unknown _ i.pattern_mem_grammar
  apply Sign.ne_of_clash clashing {} i.operands rest (i.pattern.line.ending.fill i.operands.number)
  rw [Sign.map_fill_spell, begins, toList_text]
  rfl

end Instruction

/-! ### Disassembly -/

section Disassembly

open Instruction

variable {a b : Int} {i j : Instruction}

/-- A word that stands for an instruction is written as that instruction. -/
theorem disassemble_of_some (known : ofWord? (UInt16.ofInt a) = some i) :
    disassemble a = i.text := by
  simp only [disassemble, known]

/-- A word that stands for no instruction is shown as a number. -/
theorem toList_disassemble_of_none (unknown : ofWord? (UInt16.ofInt a) = none) :
    (disassemble a).toList = "??? $".toList ++ padded 4 (UInt16.ofInt a).toNat := by
  simp only [disassemble, unknown]
  rw [← toList_hex, ← String.toList_append]
  rfl

/-- The text begins with question marks exactly when the word stands for no instruction. -/
theorem unknown_isPrefix_iff (a : Int) :
    "???".toList <+: (disassemble a).toList ↔ ofWord? (UInt16.ofInt a) = none := by
  cases found : ofWord? (UInt16.ofInt a) with
  | none =>
    rw [toList_disassemble_of_none found]
    exact iff_of_true ⟨_, rfl⟩ rfl
  | some i =>
    rw [disassemble_of_some found]
    exact iff_of_false i.not_unknown_isPrefix (Option.some_ne_none i)

/-- Words that are written alike are the same. -/
theorem word_eq_of_disassemble (same : disassemble a = disassemble b) :
    UInt16.ofInt a = UInt16.ofInt b := by
  cases found : ofWord? (UInt16.ofInt a) with
  | none =>
    have found' : ofWord? (UInt16.ofInt b) = none := by
      rwa [← unknown_isPrefix_iff, ← same, unknown_isPrefix_iff]
    have texts : (disassemble a).toList = (disassemble b).toList := congrArg String.toList same
    rw [toList_disassemble_of_none found, toList_disassemble_of_none found'] at texts
    have digits := List.append_cancel_left texts
    exact Word.eq_of_toNat
      (padded_inj (UInt16.ofInt a).toNat_lt (UInt16.ofInt b).toNat_lt digits)
  | some i =>
    obtain ⟨j, found'⟩ : ∃ j, ofWord? (UInt16.ofInt b) = some j := by
      rw [← Option.ne_none_iff_exists', ne_eq, ← unknown_isPrefix_iff, ← same,
        unknown_isPrefix_iff, found]
      exact Option.some_ne_none i
    have first := parsed_of_ofWord? found
    have second := parsed_of_ofWord? found'
    rw [disassemble_of_some found, disassemble_of_some found'] at same
    have takes : i.pattern.Takes i.operands := first.operands ▸ Pattern.takes_read _ _
    have takes' : j.pattern.Takes j.operands := second.operands ▸ Pattern.takes_read _ _
    obtain ⟨pattern, operands⟩ := text_inj takes takes' same
    rw [← first.encoded, ← second.encoded, pattern, operands]

/-- Nothing of a word is lost when it is written. Two integers are written alike exactly when their
low sixteen bits are the same. The text begins with question marks exactly when decoding refuses
the integer, wherever it comes from, and otherwise it is that of the instruction it is decoded
to. -/
theorem disassemble_tells_words (a b : Int) :
    (disassemble a = disassemble b ↔ a ≡ b [ZMOD 65536]) ∧
    ∀ pc : Int,
      ("???".toList <+: (disassemble a).toList ↔
        decodeNumber a pc = .error (.invalidOpcode (a % 65536) pc)) ∧
      ("???".toList <+: (disassemble a).toList ∨
        ∃ d, decodeNumber a pc = .ok d ∧ disassemble a = d.instruction.text) := by
  refine ⟨⟨fun same => ?_, fun same => ?_⟩, fun pc => ⟨?_, ?_⟩⟩
  · have numbers := congrArg (fun w : Word => (w.toNat : Int)) (word_eq_of_disassemble same)
    simp only [toNat_word] at numbers
    exact numbers
  · have word : (UInt16.ofInt a : Word) = UInt16.ofInt b := by
      apply Word.eq_of_toNat
      have numbers : ((UInt16.ofInt a : Word).toNat : Int) = (UInt16.ofInt b : Word).toNat := by
        rw [toNat_word, toNat_word, same]
      omega
    simp only [disassemble, word]
  · rw [unknown_isPrefix_iff]
    constructor
    · exact fun none => decodeNumber_of_ofWord?_eq_none none pc
    · intro refused
      rw [Option.eq_none_iff_forall_ne_some]
      intro i found
      rw [(decodeNumber_eq_ok_iff a pc ⟨_, i⟩).mpr ⟨rfl, found⟩] at refused
      cases refused
  · rw [unknown_isPrefix_iff]
    cases found : ofWord? (UInt16.ofInt a) with
    | none => exact .inl rfl
    | some i =>
      exact .inr ⟨⟨_, i⟩, (decodeNumber_eq_ok_iff a pc _).mpr ⟨rfl, found⟩,
        disassemble_of_some found⟩

/-- A negative integer is written as the word of its low sixteen bits. -/
example : disassemble (-11997) = "DRW V1, V2, 3" ∧ disassemble 0x5AB1 = "??? $5AB1" := by
  decide +kernel

end Disassembly

end Chip8
