import Chip8.Proofs.Decoding
import Mathlib.Data.List.Count

/-!
# The grammar of instruction words

Thirty-five patterns of four hexadecimal places say which words are instructions: a place is a fixed
digit, or one digit of a register `x`, a register `y` or a number. Main statement: of whatever
integer a word is the low sixteen bits, decoding accepts it exactly when a pattern covers it; the
instruction has the pattern that covers the word, and the words for clearing and returning are never
taken for routines of the host; and the pattern and the operands make up the word again, as all
operands of all patterns do that do not spell one of those two words.
-/

namespace Chip8

/-- One place of a pattern. -/
inductive Place where
  /-- A fixed digit. -/
  | digit (d : Nibble)
  | x
  | y
  /-- A digit of a number. -/
  | n
  deriving DecidableEq, Repr

instance (d : Nat) : OfNat Place d := ⟨.digit (Nibble.ofNat d)⟩

/-- The form that the words of an instruction have, highest digit first. -/
structure Pattern where
  first : Place
  second : Place
  third : Place
  fourth : Place
  deriving DecidableEq, Repr

/-- The operands of an instruction. What an instruction does not have is zero. -/
structure Operands where
  x : Register := Nibble.zero
  y : Register := Nibble.zero
  number : Nat := 0
  deriving DecidableEq, Repr

/-- The digit of a word at a place, the lowest being that at the place zero. -/
def Word.digit (w : Word) (k : Nat) : Nibble :=
  Nibble.ofNat (w.toNat / 16 ^ k)

namespace Place

/-- Whether a digit may stand at a place. -/
def Admits (d : Nibble) : Place → Prop
  | .digit e => d = e
  | .x | .y | .n => True

/-- The digit that some operands put at a place. -/
def fill (o : Operands) (k : Nat) : Place → Nibble
  | .digit d => d
  | .x => o.x
  | .y => o.y
  | .n => Nibble.ofNat (o.number / 16 ^ k)

/-- Whether two places ask for different digits. -/
def clash : Place → Place → Bool
  | .digit d, .digit e => d ≠ e
  | _, _ => false

/-- A place admits the digit that it shows of some operands. -/
theorem admits_fill (p : Place) (o : Operands) (k : Nat) : p.Admits (p.fill o k) := by
  cases p with
  | digit d => exact rfl
  | _ => exact trivial

/-- Places that admit a common digit do not clash. -/
theorem clash_eq_false {p q : Place} {d : Nibble} (first : p.Admits d) (second : q.Admits d) :
    p.clash q = false := by
  cases p with
  | digit e =>
    cases q with
    | digit f =>
      have same : e = f := first.symm.trans second
      simp [clash, same]
    | _ => rfl
  | _ => rfl

end Place

namespace Pattern

/-- The places of a pattern. -/
def places (p : Pattern) : List Place :=
  [p.first, p.second, p.third, p.fourth]

/-- Whether a word has the form of a pattern. -/
def Covers (p : Pattern) (w : Word) : Prop :=
  p.first.Admits (w.digit 3) ∧ p.second.Admits (w.digit 2) ∧ p.third.Admits (w.digit 1) ∧
    p.fourth.Admits (w.digit 0)

/-- The word of a pattern with some operands. -/
def encode (p : Pattern) (o : Operands) : Word :=
  UInt16.ofNat (4096 * p.first.fill o 3 + 256 * p.second.fill o 2 + 16 * p.third.fill o 1 +
    p.fourth.fill o 0)

/-- Whether a pattern shows all of some operands: it has room for the number, and what it does not
have is zero. -/
structure Takes (p : Pattern) (o : Operands) : Prop where
  x : .x ∉ p.places → o.x = Nibble.zero
  y : .y ∉ p.places → o.y = Nibble.zero
  number : o.number < 16 ^ p.places.count .n

/-- The patterns of all instructions. -/
def grammar : List Pattern :=
  [⟨0, 0, 0xE, 0⟩, ⟨0, 0, 0xE, 0xE⟩, ⟨0, .n, .n, .n⟩, ⟨1, .n, .n, .n⟩, ⟨2, .n, .n, .n⟩,
    ⟨3, .x, .n, .n⟩, ⟨4, .x, .n, .n⟩, ⟨5, .x, .y, 0⟩, ⟨6, .x, .n, .n⟩, ⟨7, .x, .n, .n⟩,
    ⟨8, .x, .y, 0⟩, ⟨8, .x, .y, 1⟩, ⟨8, .x, .y, 2⟩, ⟨8, .x, .y, 3⟩, ⟨8, .x, .y, 4⟩,
    ⟨8, .x, .y, 5⟩, ⟨8, .x, .y, 6⟩, ⟨8, .x, .y, 7⟩, ⟨8, .x, .y, 0xE⟩, ⟨9, .x, .y, 0⟩,
    ⟨0xA, .n, .n, .n⟩, ⟨0xB, .n, .n, .n⟩, ⟨0xC, .x, .n, .n⟩, ⟨0xD, .x, .y, .n⟩,
    ⟨0xE, .x, 9, 0xE⟩, ⟨0xE, .x, 0xA, 1⟩, ⟨0xF, .x, 0, 7⟩, ⟨0xF, .x, 0, 0xA⟩,
    ⟨0xF, .x, 1, 5⟩, ⟨0xF, .x, 1, 8⟩, ⟨0xF, .x, 1, 0xE⟩, ⟨0xF, .x, 2, 9⟩, ⟨0xF, .x, 3, 3⟩,
    ⟨0xF, .x, 5, 5⟩, ⟨0xF, .x, 6, 5⟩]

/-- Whether a pattern goes before another one that covers the same word: those of clearing and
returning go before that of the host's routines. -/
def Precedes (p q : Pattern) : Prop :=
  (p = ⟨0, 0, 0xE, 0⟩ ∨ p = ⟨0, 0, 0xE, 0xE⟩) ∧ q = ⟨0, .n, .n, .n⟩

instance (p q : Pattern) : Decidable (p.Precedes q) :=
  inferInstanceAs (Decidable (_ ∧ _))

/-- Whether two patterns ask for different digits at some place. -/
def clash (p q : Pattern) : Bool :=
  p.first.clash q.first || p.second.clash q.second || p.third.clash q.third ||
    p.fourth.clash q.fourth

/-! ### Words and their digits -/

/-- The digits that make up a word are found in it. -/
theorem digits_encode (p : Pattern) (o : Operands) :
    (p.encode o).digit 3 = p.first.fill o 3 ∧ (p.encode o).digit 2 = p.second.fill o 2 ∧
      (p.encode o).digit 1 = p.third.fill o 1 ∧ (p.encode o).digit 0 = p.fourth.fill o 0 := by
  generalize made : p.encode o = w
  rw [encode] at made
  generalize p.first.fill o 3 = a, p.second.fill o 2 = b, p.third.fill o 1 = c,
    p.fourth.fill o 0 = d at made ⊢
  have number : w.toNat = 4096 * a + 256 * b + 16 * c + d := by
    rw [← made, UInt16.toNat_ofNat']
    omega
  refine ⟨Fin.ext ?_, Fin.ext ?_, Fin.ext ?_, Fin.ext ?_⟩
  all_goals
    simp only [Word.digit, Nibble.ofNat, number]
    omega

/-- A pattern covers the words that it makes. -/
theorem covers_encode (p : Pattern) (o : Operands) : p.Covers (p.encode o) := by
  obtain ⟨first, second, third, fourth⟩ := p.digits_encode o
  refine ⟨?_, ?_, ?_, ?_⟩
  · rw [first]
    exact p.first.admits_fill o 3
  · rw [second]
    exact p.second.admits_fill o 2
  · rw [third]
    exact p.third.admits_fill o 1
  · rw [fourth]
    exact p.fourth.admits_fill o 0

/-- Patterns that clash cover no common word. -/
theorem clash_eq_false_of_covers {p q : Pattern} {w : Word} (first : p.Covers w)
    (second : q.Covers w) : p.clash q = false := by
  obtain ⟨a, b, c, d⟩ := first
  obtain ⟨a', b', c', d'⟩ := second
  simp only [clash, Place.clash_eq_false a a', Place.clash_eq_false b b',
    Place.clash_eq_false c c', Place.clash_eq_false d d', Bool.or_false]

/-- Two patterns of the grammar clash, unless one of them goes before the other. -/
theorem clash_of_grammar : ∀ p ∈ grammar, ∀ q ∈ grammar,
    p = q ∨ p.Precedes q ∨ q.Precedes p ∨ p.clash q = true := by
  decide +kernel

/-- Two patterns of the grammar that cover the same word are one, unless one of them goes before the
other. -/
theorem eq_or_precedes {p q : Pattern} (first : p ∈ grammar) (second : q ∈ grammar) {w : Word}
    (covered : p.Covers w) (again : q.Covers w) : p = q ∨ p.Precedes q ∨ q.Precedes p := by
  rcases clash_of_grammar p first q second with same | before | after | clash
  · exact .inl same
  · exact .inr (.inl before)
  · exact .inr (.inr after)
  · rw [clash_eq_false_of_covers covered again] at clash
    cases clash

/-! ### Words and operands -/

/-- The operands that a word shows in the places of a pattern. -/
def read (p : Pattern) (w : Word) : Operands where
  x := if .x ∈ p.places then w.x else Nibble.zero
  y := if .y ∈ p.places then w.y else Nibble.zero
  number := w.toNat % 16 ^ p.places.count .n

/-- Whether what stands at the place `k` stands there in instruction words, where the number takes
the lowest `length` places. -/
def stands (length k : Nat) : Place → Bool
  | .digit _ => true
  | .x => k = 2
  | .y => k = 1
  | .n => k < length

/-- Whether registers and numbers stand where they stand in instruction words. -/
def regular (p : Pattern) : Bool :=
  let length := p.places.count .n
  stands length 3 p.first && stands length 2 p.second && stands length 1 p.third &&
    stands length 0 p.fourth

/-- The patterns of the grammar are regular. -/
theorem regular_of_grammar : ∀ p ∈ grammar, p.regular = true := by
  decide +kernel

/-- What is read off a word is shown in full. -/
theorem takes_read (p : Pattern) (w : Word) : p.Takes (p.read w) where
  x absent := if_neg absent
  y absent := if_neg absent
  number := Nat.mod_lt _ (Nat.pow_pos (by decide))

/-- Cutting a number does not change the digits that stay. -/
theorem digit_of_cut (m : Nat) {k length : Nat} (low : k < length) :
    Nibble.ofNat (m % 16 ^ length / 16 ^ k) = Nibble.ofNat (m / 16 ^ k) := by
  obtain ⟨more, rfl⟩ : ∃ more, length = k + (more + 1) := ⟨length - k - 1, by omega⟩
  have shifted : m % 16 ^ (k + (more + 1)) / 16 ^ k = m / 16 ^ k % 16 ^ (more + 1) := by
    rw [Nat.pow_add, Nat.mod_mul_right_div_self]
  have lowest : m / 16 ^ k % 16 ^ (more + 1) % 16 = m / 16 ^ k % 16 :=
    Nat.mod_mod_of_dvd _ (Dvd.intro_left (16 ^ more) (Nat.pow_succ ..).symm)
  rw [shifted]
  exact Fin.ext lowest

/-- The operands that are read off a word put its digit back at every place where they stand. -/
theorem fill_read {p : Pattern} {w : Word} {place : Place} {k : Nat} (member : place ∈ p.places)
    (allowed : stands (p.places.count .n) k place = true) (admits : place.Admits (w.digit k)) :
    place.fill (p.read w) k = w.digit k := by
  cases place with
  | digit d => exact admits.symm
  | x =>
    have second : k = 2 := of_decide_eq_true allowed
    rw [second, Place.fill, read, if_pos member]
    rfl
  | y =>
    have third : k = 1 := of_decide_eq_true allowed
    rw [third, Place.fill, read, if_pos member]
    rfl
  | n =>
    have low : k < p.places.count .n := of_decide_eq_true allowed
    rw [Place.fill, read, digit_of_cut _ low]
    rfl

/-- The operands that are read off a word make it up again. -/
theorem encode_read {p : Pattern} (regular : p.regular = true) {w : Word} (covers : p.Covers w) :
    p.encode (p.read w) = w := by
  have small := w.toNat_lt
  obtain ⟨first, second, third, fourth⟩ := covers
  simp only [Pattern.regular, Bool.and_eq_true] at regular
  obtain ⟨⟨⟨top, high⟩, low⟩, bottom⟩ := regular
  rw [encode, fill_read (by simp [places]) top first, fill_read (by simp [places]) high second,
    fill_read (by simp [places]) low third, fill_read (by simp [places]) bottom fourth]
  apply Word.eq_of_toNat
  simp only [Word.digit, Nibble.ofNat, UInt16.toNat_ofNat']
  omega

namespace Takes

variable {a b c d : Nibble} {o : Operands}

/-- Without operands there is nothing to show. -/
theorem bare (takes : Takes ⟨.digit a, .digit b, .digit c, .digit d⟩ o) : o = {} := by
  obtain ⟨x, y, number⟩ := o
  have first : x = Nibble.zero := takes.x (by simp [places])
  have second : y = Nibble.zero := takes.y (by simp [places])
  have zero : number = 0 := by simpa [places] using takes.number
  rw [first, second, zero]

/-- Beside a digit, twelve bits are an address. -/
theorem address (takes : Takes ⟨.digit a, .n, .n, .n⟩ o) :
    ∃ address : Address, o = { number := address } := by
  obtain ⟨x, y, number⟩ := o
  have first : x = Nibble.zero := takes.x (by simp [places])
  have second : y = Nibble.zero := takes.y (by simp [places])
  have bound : number < 4096 := by simpa [places] using takes.number
  exact ⟨⟨number, bound⟩, by rw [first, second]⟩

/-- Beside a digit, a register and eight bits are a register and a byte. -/
theorem byte (takes : Takes ⟨.digit a, .x, .n, .n⟩ o) :
    ∃ (x : Register) (byte : UInt8), o = { x := x, number := byte.toNat } := by
  obtain ⟨x, y, number⟩ := o
  have second : y = Nibble.zero := takes.y (by simp [places])
  have bound : number < 256 := by simpa [places] using takes.number
  refine ⟨x, UInt8.ofNat number, ?_⟩
  rw [second, UInt8.toNat_ofNat', Nat.mod_eq_of_lt bound]

/-- Two registers between digits are all there is to show. -/
theorem pair (takes : Takes ⟨.digit a, .x, .y, .digit d⟩ o) :
    ∃ x y : Register, o = { x := x, y := y } := by
  obtain ⟨x, y, number⟩ := o
  have zero : number = 0 := by simpa [places] using takes.number
  exact ⟨x, y, by rw [zero]⟩

/-- Two registers and four bits are the operands of a drawing. -/
theorem sprite (takes : Takes ⟨.digit a, .x, .y, .n⟩ o) :
    ∃ (x y : Register) (rows : Nibble), o = { x := x, y := y, number := rows } := by
  obtain ⟨x, y, number⟩ := o
  have bound : number < 16 := by simpa [places] using takes.number
  exact ⟨x, y, ⟨number, bound⟩, rfl⟩

/-- A single register is all there is to show. -/
theorem register (takes : Takes ⟨.digit a, .x, .digit c, .digit d⟩ o) :
    ∃ x : Register, o = { x := x } := by
  obtain ⟨x, y, number⟩ := o
  have second : y = Nibble.zero := takes.y (by simp [places])
  have zero : number = 0 := by simpa [places] using takes.number
  exact ⟨x, by rw [second, zero]⟩

end Takes

end Pattern

namespace Instruction

open Pattern

/-- The pattern of the words of an instruction. -/
def pattern : Instruction → Pattern
  | .clear => ⟨0, 0, 0xE, 0⟩
  | .ret => ⟨0, 0, 0xE, 0xE⟩
  | .hostRoutine _ => ⟨0, .n, .n, .n⟩
  | .jump _ => ⟨1, .n, .n, .n⟩
  | .call _ => ⟨2, .n, .n, .n⟩
  | .skip (.equalsByte ..) => ⟨3, .x, .n, .n⟩
  | .skip (.differsFromByte ..) => ⟨4, .x, .n, .n⟩
  | .skip (.equals ..) => ⟨5, .x, .y, 0⟩
  | .loadByte .. => ⟨6, .x, .n, .n⟩
  | .addByte .. => ⟨7, .x, .n, .n⟩
  | .alu .copy .. => ⟨8, .x, .y, 0⟩
  | .alu .or .. => ⟨8, .x, .y, 1⟩
  | .alu .and .. => ⟨8, .x, .y, 2⟩
  | .alu .xor .. => ⟨8, .x, .y, 3⟩
  | .alu .add .. => ⟨8, .x, .y, 4⟩
  | .alu .subtract .. => ⟨8, .x, .y, 5⟩
  | .alu .shiftRight .. => ⟨8, .x, .y, 6⟩
  | .alu .subtractFrom .. => ⟨8, .x, .y, 7⟩
  | .alu .shiftLeft .. => ⟨8, .x, .y, 0xE⟩
  | .skip (.differs ..) => ⟨9, .x, .y, 0⟩
  | .setIndex _ => ⟨0xA, .n, .n, .n⟩
  | .jumpOffset _ => ⟨0xB, .n, .n, .n⟩
  | .random .. => ⟨0xC, .x, .n, .n⟩
  | .draw .. => ⟨0xD, .x, .y, .n⟩
  | .skip (.keyDown _) => ⟨0xE, .x, 9, 0xE⟩
  | .skip (.keyUp _) => ⟨0xE, .x, 0xA, 1⟩
  | .readDelay _ => ⟨0xF, .x, 0, 7⟩
  | .awaitKey _ => ⟨0xF, .x, 0, 0xA⟩
  | .setDelay _ => ⟨0xF, .x, 1, 5⟩
  | .setSound _ => ⟨0xF, .x, 1, 8⟩
  | .addIndex _ => ⟨0xF, .x, 1, 0xE⟩
  | .pointAtGlyph _ => ⟨0xF, .x, 2, 9⟩
  | .storeDecimal _ => ⟨0xF, .x, 3, 3⟩
  | .storeRegisters _ => ⟨0xF, .x, 5, 5⟩
  | .loadRegisters _ => ⟨0xF, .x, 6, 5⟩

/-- The operands of an instruction. -/
def operands : Instruction → Operands
  | .clear | .ret => {}
  | .hostRoutine address | .jump address | .call address | .jumpOffset address
  | .setIndex address => { number := address }
  | .skip (.equalsByte x byte) | .skip (.differsFromByte x byte) | .loadByte x byte
  | .addByte x byte | .random x byte => { x := x, number := byte.toNat }
  | .skip (.equals x y) | .skip (.differs x y) | .alu _ x y => { x := x, y := y }
  | .draw x y rows => { x := x, y := y, number := rows }
  | .skip (.keyDown x) | .skip (.keyUp x) | .addIndex x | .pointAtGlyph x | .storeDecimal x
  | .storeRegisters x | .loadRegisters x | .awaitKey x | .readDelay x | .setDelay x
  | .setSound x => { x := x }

/-- Every instruction has a pattern of the grammar. -/
theorem pattern_mem_grammar (instruction : Instruction) : instruction.pattern ∈ grammar := by
  cases instruction with
  | alu op x y =>
    cases op with
    | _ => simp only [pattern]; decide
  | skip condition =>
    cases condition with
    | _ => simp only [pattern]; decide
  | _ => simp only [pattern]; decide

/-- An address in the three lowest places. -/
theorem encode_address (family : Nibble) (address : Address) :
    encode ⟨.digit family, .n, .n, .n⟩ { number := address } = wordOfAddress family address := by
  have bound := address.isLt
  simp only [encode, Place.fill, Nibble.ofNat, wordOfAddress]
  congr 1
  omega

/-- A register and a byte in the three lowest places. -/
theorem encode_byte (family : Nibble) (x : Register) (byte : UInt8) :
    encode ⟨.digit family, .x, .n, .n⟩ { x := x, number := byte.toNat } =
      wordOfByte family x byte := by
  have bound := byte.toNat_lt
  simp only [encode, Place.fill, Nibble.ofNat, wordOfByte]
  congr 1
  omega

/-- Two registers in front of a fixed digit. -/
theorem encode_pair (family : Nibble) (x y : Register) (low : Nibble) :
    encode ⟨.digit family, .x, .y, .digit low⟩ { x := x, y := y } =
      wordOfPair family x y low := by
  simp only [encode, Place.fill, wordOfPair]
  congr 1
  omega

/-- Two registers in front of a number of one digit. -/
theorem encode_sprite (family : Nibble) (x y : Register) (rows : Nibble) :
    encode ⟨.digit family, .x, .y, .n⟩ { x := x, y := y, number := rows } =
      wordOfPair family x y rows := by
  have bound := rows.isLt
  simp only [encode, Place.fill, Nibble.ofNat, wordOfPair]
  congr 1
  omega

/-- A register in front of two fixed digits. -/
theorem encode_register (family : Nibble) (x : Register) (high low : Nibble) :
    encode ⟨.digit family, .x, .digit high, .digit low⟩ { x := x } =
      wordOfByte family x (UInt8.ofNat (16 * high + low)) := by
  have bound : 16 * high.val + low.val < 256 := by omega
  simp only [encode, Place.fill, wordOfByte, UInt8.toNat_ofNat', Nat.mod_eq_of_lt bound]
  congr 1
  omega

/-- The word of an instruction is its pattern with its operands. -/
theorem encode_operands (instruction : Instruction) :
    instruction.pattern.encode instruction.operands = instruction.word := by
  cases instruction with
  | clear => rfl
  | ret => rfl
  | hostRoutine address => exact encode_address 0 address
  | jump target => exact encode_address 1 target
  | call target => exact encode_address 2 target
  | jumpOffset base => exact encode_address 0xB base
  | setIndex address => exact encode_address 0xA address
  | skip condition =>
    cases condition with
    | equalsByte x byte => exact encode_byte 3 x byte
    | differsFromByte x byte => exact encode_byte 4 x byte
    | equals x y => exact encode_pair 5 x y 0
    | differs x y => exact encode_pair 9 x y 0
    | keyDown x => exact encode_register 0xE x 9 0xE
    | keyUp x => exact encode_register 0xE x 0xA 1
  | loadByte x byte => exact encode_byte 6 x byte
  | addByte x byte => exact encode_byte 7 x byte
  | random x mask => exact encode_byte 0xC x mask
  | alu op x y =>
    cases op with
    | _ => exact encode_pair 8 x y _
  | draw x y rows => exact encode_sprite 0xD x y rows
  | readDelay x => exact encode_register 0xF x 0 7
  | awaitKey x => exact encode_register 0xF x 0 0xA
  | setDelay x => exact encode_register 0xF x 1 5
  | setSound x => exact encode_register 0xF x 1 8
  | addIndex x => exact encode_register 0xF x 1 0xE
  | pointAtGlyph x => exact encode_register 0xF x 2 9
  | storeDecimal x => exact encode_register 0xF x 3 3
  | storeRegisters x => exact encode_register 0xF x 5 5
  | loadRegisters x => exact encode_register 0xF x 6 5

/-- Whatever operands a pattern of the grammar takes, there is an instruction of that pattern with
those operands. -/
theorem exists_of_takes {p : Pattern} (member : p ∈ grammar) {o : Operands} (takes : p.Takes o) :
    ∃ instruction : Instruction, instruction.pattern = p ∧ instruction.operands = o := by
  simp only [grammar, List.mem_cons, List.not_mem_nil, or_false] at member
  -- One case for each pattern, in the order of the grammar.
  rcases member with rfl | rfl | rfl | rfl | rfl | rfl | rfl | rfl | rfl | rfl | rfl | rfl | rfl |
    rfl | rfl | rfl | rfl | rfl | rfl | rfl | rfl | rfl | rfl | rfl | rfl | rfl | rfl | rfl | rfl |
    rfl | rfl | rfl | rfl | rfl | rfl
  · exact ⟨.clear, rfl, takes.bare.symm⟩
  · exact ⟨.ret, rfl, takes.bare.symm⟩
  · obtain ⟨address, rfl⟩ := takes.address
    exact ⟨.hostRoutine address, rfl, rfl⟩
  · obtain ⟨target, rfl⟩ := takes.address
    exact ⟨.jump target, rfl, rfl⟩
  · obtain ⟨target, rfl⟩ := takes.address
    exact ⟨.call target, rfl, rfl⟩
  · obtain ⟨x, byte, rfl⟩ := takes.byte
    exact ⟨.skip (.equalsByte x byte), rfl, rfl⟩
  · obtain ⟨x, byte, rfl⟩ := takes.byte
    exact ⟨.skip (.differsFromByte x byte), rfl, rfl⟩
  · obtain ⟨x, y, rfl⟩ := takes.pair
    exact ⟨.skip (.equals x y), rfl, rfl⟩
  · obtain ⟨x, byte, rfl⟩ := takes.byte
    exact ⟨.loadByte x byte, rfl, rfl⟩
  · obtain ⟨x, byte, rfl⟩ := takes.byte
    exact ⟨.addByte x byte, rfl, rfl⟩
  · obtain ⟨x, y, rfl⟩ := takes.pair
    exact ⟨.alu .copy x y, rfl, rfl⟩
  · obtain ⟨x, y, rfl⟩ := takes.pair
    exact ⟨.alu .or x y, rfl, rfl⟩
  · obtain ⟨x, y, rfl⟩ := takes.pair
    exact ⟨.alu .and x y, rfl, rfl⟩
  · obtain ⟨x, y, rfl⟩ := takes.pair
    exact ⟨.alu .xor x y, rfl, rfl⟩
  · obtain ⟨x, y, rfl⟩ := takes.pair
    exact ⟨.alu .add x y, rfl, rfl⟩
  · obtain ⟨x, y, rfl⟩ := takes.pair
    exact ⟨.alu .subtract x y, rfl, rfl⟩
  · obtain ⟨x, y, rfl⟩ := takes.pair
    exact ⟨.alu .shiftRight x y, rfl, rfl⟩
  · obtain ⟨x, y, rfl⟩ := takes.pair
    exact ⟨.alu .subtractFrom x y, rfl, rfl⟩
  · obtain ⟨x, y, rfl⟩ := takes.pair
    exact ⟨.alu .shiftLeft x y, rfl, rfl⟩
  · obtain ⟨x, y, rfl⟩ := takes.pair
    exact ⟨.skip (.differs x y), rfl, rfl⟩
  · obtain ⟨address, rfl⟩ := takes.address
    exact ⟨.setIndex address, rfl, rfl⟩
  · obtain ⟨base, rfl⟩ := takes.address
    exact ⟨.jumpOffset base, rfl, rfl⟩
  · obtain ⟨x, mask, rfl⟩ := takes.byte
    exact ⟨.random x mask, rfl, rfl⟩
  · obtain ⟨x, y, rows, rfl⟩ := takes.sprite
    exact ⟨.draw x y rows, rfl, rfl⟩
  · obtain ⟨x, rfl⟩ := takes.register
    exact ⟨.skip (.keyDown x), rfl, rfl⟩
  · obtain ⟨x, rfl⟩ := takes.register
    exact ⟨.skip (.keyUp x), rfl, rfl⟩
  · obtain ⟨x, rfl⟩ := takes.register
    exact ⟨.readDelay x, rfl, rfl⟩
  · obtain ⟨x, rfl⟩ := takes.register
    exact ⟨.awaitKey x, rfl, rfl⟩
  · obtain ⟨x, rfl⟩ := takes.register
    exact ⟨.setDelay x, rfl, rfl⟩
  · obtain ⟨x, rfl⟩ := takes.register
    exact ⟨.setSound x, rfl, rfl⟩
  · obtain ⟨x, rfl⟩ := takes.register
    exact ⟨.addIndex x, rfl, rfl⟩
  · obtain ⟨x, rfl⟩ := takes.register
    exact ⟨.pointAtGlyph x, rfl, rfl⟩
  · obtain ⟨x, rfl⟩ := takes.register
    exact ⟨.storeDecimal x, rfl, rfl⟩
  · obtain ⟨x, rfl⟩ := takes.register
    exact ⟨.storeRegisters x, rfl, rfl⟩
  · obtain ⟨x, rfl⟩ := takes.register
    exact ⟨.loadRegisters x, rfl, rfl⟩

/-! ### Decoding -/

/-- Whether a number spells, as the routine of the host, the word for clearing or returning. -/
def Shadowed (p : Pattern) (o : Operands) : Prop :=
  p = ⟨0, .n, .n, .n⟩ ∧ (o.number = 0x0E0 ∨ o.number = 0x0EE)

/-- An instruction whose operands do not spell another one is proper. -/
theorem proper_of_not_shadowed {instruction : Instruction}
    (free : ¬Shadowed instruction.pattern instruction.operands) : instruction.Proper := by
  cases instruction with
  | hostRoutine address =>
    have not_clear : address.val ≠ 0x0E0 := fun clear => free ⟨rfl, .inl clear⟩
    have not_ret : address.val ≠ 0x0EE := fun ret => free ⟨rfl, .inr ret⟩
    exact ⟨not_clear, not_ret⟩
  | _ => trivial

/-- What is spelled so is covered by a pattern that goes before that of the host's routines. -/
theorem exists_precedes_of_shadowed {p : Pattern} {o : Operands} (shadowed : Shadowed p o) :
    ∃ q ∈ grammar, q.Covers (p.encode o) ∧ q.Precedes p := by
  obtain ⟨rfl, clear | ret⟩ := shadowed
  · have same : encode ⟨0, .n, .n, .n⟩ o = encode ⟨0, 0, 0xE, 0⟩ {} := by
      simp only [encode, Place.fill, clear]
      rfl
    rw [same]
    exact ⟨⟨0, 0, 0xE, 0⟩, by decide, covers_encode _ _, .inl rfl, rfl⟩
  · have same : encode ⟨0, .n, .n, .n⟩ o = encode ⟨0, 0, 0xE, 0xE⟩ {} := by
      simp only [encode, Place.fill, ret]
      rfl
    rw [same]
    exact ⟨⟨0, 0, 0xE, 0xE⟩, by decide, covers_encode _ _, .inr rfl, rfl⟩

/-- A word that a pattern covers, and none that goes before it, stands for the instruction of that
pattern with the operands that the word shows. -/
theorem ofWord?_of_covers {p : Pattern} (member : p ∈ grammar) {w : Word} (covers : p.Covers w)
    (first : ∀ q ∈ grammar, q.Covers w → ¬q.Precedes p) :
    ∃ instruction, ofWord? w = some instruction ∧ instruction.pattern = p ∧
      instruction.operands = p.read w := by
  obtain ⟨instruction, rfl, operands⟩ := exists_of_takes member (takes_read p w)
  have made : instruction.pattern.encode instruction.operands = w := by
    rw [operands, encode_read (regular_of_grammar _ member) covers]
  have free : ¬Shadowed instruction.pattern instruction.operands := by
    intro shadowed
    obtain ⟨q, listed, covered, before⟩ := exists_precedes_of_shadowed shadowed
    rw [made] at covered
    exact first q listed covered before
  have word : instruction.word = w := (encode_operands instruction).symm.trans made
  have decoded := ofWord?_word (proper_of_not_shadowed free)
  rw [word] at decoded
  exact ⟨instruction, decoded, rfl, operands⟩

/-- The pattern of the instruction that a word stands for covers the word. -/
theorem covers_of_ofWord? {w : Word} {instruction : Instruction}
    (decoded : ofWord? w = some instruction) : instruction.pattern.Covers w := by
  have word : instruction.pattern.encode instruction.operands = w :=
    (encode_operands instruction).trans (word_of_ofWord? decoded)
  rw [← word]
  exact covers_encode _ _

/-- Nothing goes before a pattern that goes before another one. -/
theorem not_precedes_of_precedes {p q r : Pattern} (before : q.Precedes r) : ¬p.Precedes q := by
  rintro ⟨-, host⟩
  obtain ⟨clear | ret, -⟩ := before
  · exact absurd (host.symm.trans clear) (by decide)
  · exact absurd (host.symm.trans ret) (by decide)

/-- A pattern that covers the word of an instruction is that of the instruction, or that one goes
before it. -/
theorem eq_or_precedes_of_ofWord? {w : Word} {instruction : Instruction}
    (decoded : ofWord? w = some instruction) {q : Pattern} (member : q ∈ grammar)
    (covers : q.Covers w) : q = instruction.pattern ∨ instruction.pattern.Precedes q := by
  rcases eq_or_precedes member instruction.pattern_mem_grammar covers
    (covers_of_ofWord? decoded) with same | before | after
  · exact .inl same
  -- A pattern that goes before is that of the instruction, because nothing goes before it.
  · obtain ⟨other, found, pattern, _⟩ :=
      ofWord?_of_covers member covers fun r _ _ => not_precedes_of_precedes before
    rw [decoded] at found
    cases found
    exact .inl pattern.symm
  · exact .inr after

/-- What an accepted word is to the grammar: the pattern of its instruction is one of the grammar
and covers it, other patterns that cover it come after that one, the operands are the digits that
the word shows there, and pattern and operands make up the word again. -/
structure Parsed (w : Word) (instruction : Instruction) : Prop where
  member : instruction.pattern ∈ grammar
  covers : instruction.pattern.Covers w
  only : ∀ q ∈ grammar, q.Covers w → q = instruction.pattern ∨ instruction.pattern.Precedes q
  operands : instruction.operands = instruction.pattern.read w
  encoded : instruction.pattern.encode instruction.operands = w
  word : instruction.word = w

/-- The instruction that a word stands for is parsed by the grammar. -/
theorem parsed_of_ofWord? {w : Word} {instruction : Instruction}
    (decoded : ofWord? w = some instruction) : Parsed w instruction where
  member := instruction.pattern_mem_grammar
  covers := covers_of_ofWord? decoded
  only _ member covers := eq_or_precedes_of_ofWord? decoded member covers
  operands := by
    have first : ∀ q ∈ grammar, q.Covers w → ¬q.Precedes instruction.pattern := by
      intro q member covers before
      rcases eq_or_precedes_of_ofWord? decoded member covers with same | after
      · rw [same] at before
        exact not_precedes_of_precedes before before
      · exact not_precedes_of_precedes before after
    obtain ⟨other, found, -, operands⟩ :=
      ofWord?_of_covers instruction.pattern_mem_grammar (covers_of_ofWord? decoded) first
    rw [decoded] at found
    cases found
    exact operands
  encoded := (encode_operands instruction).trans (word_of_ofWord? decoded)
  word := word_of_ofWord? decoded

/-- A word stands for an instruction exactly when a pattern of the grammar covers it. -/
theorem exists_ofWord?_iff (w : Word) :
    (∃ instruction, ofWord? w = some instruction) ↔ ∃ p ∈ grammar, p.Covers w := by
  constructor
  · rintro ⟨instruction, decoded⟩
    exact ⟨_, instruction.pattern_mem_grammar, covers_of_ofWord? decoded⟩
  · rintro ⟨p, member, covers⟩
    have made := encode_read (regular_of_grammar p member) covers
    obtain ⟨instruction, rfl, operands⟩ := exists_of_takes member (takes_read p w)
    rw [← operands, encode_operands] at made
    exact Option.ne_none_iff_exists'.mp fun none =>
      (ofWord?_eq_none_iff w).mp none instruction made

/-- A word is decoded to the instruction it stands for. -/
theorem decode_eq_ok_iff (w : Word) (pc : Int) (instruction : Instruction) :
    decode w pc = .ok instruction ↔ ofWord? w = some instruction := by
  rw [decode]
  cases ofWord? w with
  | none => simp
  | some other => simp

/-- A word that stands for no instruction is refused with its address. -/
theorem decode_of_ofWord?_eq_none {w : Word} (none : ofWord? w = none) (pc : Int) :
    decode w pc = .error (.invalidOpcode w.toNat pc) := by
  rw [decode, none]

/-- The word that the low sixteen bits of an integer are, as a number. -/
theorem toNat_word (n : Int) : ((UInt16.ofInt n : Word).toNat : Int) = n % 65536 := by
  simp only [UInt16.ofInt, UInt16.toNat_ofNat']
  omega

/-- An integer is decoded to an instruction exactly when its low sixteen bits are. -/
theorem decodeNumber_eq_ok_iff (n pc : Int) (d : Decoded) :
    decodeNumber n pc = .ok d ↔
      d.raw = UInt16.ofInt n ∧ ofWord? (UInt16.ofInt n) = some d.instruction := by
  rw [← decode_eq_ok_iff _ pc, decodeNumber]
  cases decode (UInt16.ofInt n) pc with
  | error fault => exact iff_of_false nofun fun parts => nomatch parts.2
  | ok instruction =>
    constructor
    · intro decoded
      cases decoded
      exact ⟨rfl, rfl⟩
    · rintro ⟨raw, same⟩
      cases d
      cases same
      cases raw
      rfl

/-- An integer whose low sixteen bits are no instruction is refused as what these bits are. -/
theorem decodeNumber_of_ofWord?_eq_none {n : Int} (none : ofWord? (UInt16.ofInt n) = none)
    (pc : Int) : decodeNumber n pc = .error (.invalidOpcode (n % 65536) pc) := by
  rw [decodeNumber, decode_of_ofWord?_eq_none none pc, toNat_word]
  rfl

/-- Decoding follows the grammar. Of any integer the low sixteen bits count. They are decoded
exactly when a pattern covers them, and otherwise refused as what they are, with the address they
came from. What is decoded keeps them and is parsed from them by the grammar, in which two patterns
cover a common word only if one of them goes before the other. Every pattern is decoded with all
operands that it takes, but for two words that are not for the host. -/
theorem decode_follows_grammar (n pc : Int) :
    ∃ w : Word, (w.toNat : Int) = n % 65536 ∧
      ((∃ d, decodeNumber n pc = .ok d) ↔ ∃ p ∈ grammar, p.Covers w) ∧
      ((¬∃ p ∈ grammar, p.Covers w) →
        decodeNumber n pc = .error (.invalidOpcode (n % 65536) pc)) ∧
      (∀ d, decodeNumber n pc = .ok d → d.raw = w ∧ Parsed w d.instruction) ∧
      (∀ p ∈ grammar, ∀ q ∈ grammar, p.Covers w → q.Covers w →
        p = q ∨ p.Precedes q ∨ q.Precedes p) ∧
      ∀ p ∈ grammar, ∀ o, p.Takes o → ¬Shadowed p o →
        ∃ d, decodeNumber (p.encode o).toNat pc = .ok d ∧ d.raw = p.encode o ∧
          d.instruction.pattern = p ∧ d.instruction.operands = o := by
  refine ⟨UInt16.ofInt n, toNat_word n, ?_, ?_, ?_,
    fun p first q second => eq_or_precedes first second, ?_⟩
  · rw [← exists_ofWord?_iff]
    constructor
    · rintro ⟨d, decoded⟩
      exact ⟨d.instruction, ((decodeNumber_eq_ok_iff n pc d).mp decoded).2⟩
    · rintro ⟨instruction, decoded⟩
      exact ⟨⟨_, instruction⟩, (decodeNumber_eq_ok_iff n pc _).mpr ⟨rfl, decoded⟩⟩
  · intro uncovered
    have none : ofWord? (UInt16.ofInt n) = none := by
      rw [Option.eq_none_iff_forall_ne_some]
      intro instruction decoded
      exact uncovered ((exists_ofWord?_iff _).mp ⟨instruction, decoded⟩)
    exact decodeNumber_of_ofWord?_eq_none none pc
  · intro d decoded
    obtain ⟨raw, found⟩ := (decodeNumber_eq_ok_iff n pc d).mp decoded
    exact ⟨raw, parsed_of_ofWord? found⟩
  · intro p member o takes free
    obtain ⟨instruction, rfl, rfl⟩ := exists_of_takes member takes
    have word : (UInt16.ofInt (instruction.word.toNat : Int) : Word) = instruction.word := by
      apply Word.eq_of_toNat
      have number := toNat_word instruction.word.toNat
      have bound := instruction.word.toNat_lt
      omega
    refine ⟨⟨instruction.word, instruction⟩, ?_, ?_, rfl, rfl⟩
    · rw [encode_operands, decodeNumber_eq_ok_iff, word]
      exact ⟨rfl, ofWord?_word (proper_of_not_shadowed free)⟩
    · rw [encode_operands]

/-- The low sixteen bits of a negative number are the word of a sprite with three rows, and the word
next to that for clearing is one for the host. -/
theorem decode_follows_grammar_negative :
    (∃ d, decodeNumber (-11997) 0x200 = .ok d ∧ d.raw = 0xD123 ∧ Parsed 0xD123 d.instruction) ∧
    ∃ d, decodeNumber (encode ⟨0, .n, .n, .n⟩ { number := 0x0E1 }).toNat 0x200 = .ok d ∧
      d.instruction.pattern = ⟨0, .n, .n, .n⟩ ∧ d.instruction.operands = { number := 0x0E1 } := by
  obtain ⟨w, number, accepted, -, parsed, -, back⟩ := decode_follows_grammar (-11997) 0x200
  obtain rfl : w = 0xD123 := Word.eq_of_toNat (Int.ofNat.inj number)
  obtain ⟨d, decoded⟩ :=
    accepted.mpr ⟨⟨0xD, .x, .y, .n⟩, by decide, rfl, trivial, trivial, trivial⟩
  refine ⟨⟨d, decoded, parsed d decoded⟩, ?_⟩
  have takes : Takes ⟨0, .n, .n, .n⟩ { number := 0x0E1 } :=
    ⟨fun _ => rfl, fun _ => rfl, by decide⟩
  obtain ⟨d, decoded, -, found⟩ :=
    back _ (by decide) _ takes fun shadowed => absurd shadowed.2 (by decide)
  exact ⟨d, decoded, found⟩

end Instruction

end Chip8
