import Chip8.Instruction.Word
import Mathlib.Data.Nat.Bitwise

/-!
# Words and instructions

Decoding loses nothing: the instruction that a word stands for is written as that word, and the word
of an instruction stands for it again.
-/

namespace Chip8

namespace Word

/-- Two words with the same number are the same. -/
theorem eq_of_toNat {v w : Word} (same : v.toNat = w.toNat) : v = w :=
  UInt16.toNat_inj.mp same

/-- The first register operand as a number. -/
theorem val_x (w : Word) : w.x.val = w.toNat / 256 % 16 := rfl

/-- The second register operand as a number. -/
theorem val_y (w : Word) : w.y.val = w.toNat / 16 % 16 := rfl

/-- The operand of four bits as a number. -/
theorem val_n (w : Word) : w.n.val = w.toNat % 16 := rfl

/-- The address operand as a number. -/
theorem val_nnn (w : Word) : w.nnn.val = w.toNat % 4096 := rfl

/-- The operand of eight bits as a number. -/
theorem toNat_nn (w : Word) : w.nn.toNat = w.toNat % 256 := by
  simp [nn]

end Word

namespace Instruction

/-- A word is made up of its family and its lowest twelve bits. -/
theorem wordOfAddress_parts (w : Word) : wordOfAddress w.family w.nnn = w := by
  have small := w.toNat_lt
  apply Word.eq_of_toNat
  simp only [wordOfAddress, Word.family, Word.val_nnn, UInt16.toNat_ofNat']
  omega

/-- A word is made up of its family, its second group of four bits and its lowest eight. -/
theorem wordOfByte_parts (w : Word) : wordOfByte w.family w.x w.nn = w := by
  have small := w.toNat_lt
  apply Word.eq_of_toNat
  simp only [wordOfByte, Word.family, Word.val_x, Word.toNat_nn, UInt16.toNat_ofNat']
  omega

/-- A word is made up of its four groups of four bits. -/
theorem wordOfPair_parts (w : Word) : wordOfPair w.family w.x w.y w.n = w := by
  have small := w.toNat_lt
  apply Word.eq_of_toNat
  simp only [wordOfPair, Word.family, Word.val_x, Word.val_y, Word.val_n, UInt16.toNat_ofNat']
  omega

/-- The four bits that name an operation are the bits of its name. -/
theorem nibble_of_ofNibble? {k : Nat} {op : AluOp} (named : AluOp.ofNibble? k = some op) :
    op.nibble = k := by
  unfold AluOp.ofNibble? at named
  split at named
  all_goals first
    | contradiction
    | (cases named; rfl)

/-- A word whose lowest eight bits are known is made up of them and the rest. -/
theorem wordOfByte_low {w : Word} {family low : Nat} (top : w.family = family)
    (bottom : w.nn.toNat = low) : wordOfByte family w.x (UInt8.ofNat low) = w := by
  rw [← top, ← bottom, UInt8.ofNat_toNat]
  exact wordOfByte_parts w

/-- An instruction of the zero family has the word it was made from. -/
theorem word_ofZeroFamily {w : Word} (family : w.family = 0x0) : (ofZeroFamily w).word = w := by
  unfold ofZeroFamily
  split
  · rename_i clear
    exact clear.symm
  · split
    · rename_i ret
      exact ret.symm
    · have parts := wordOfAddress_parts w
      rw [family] at parts
      exact parts

/-- An instruction of the keypad family has the word it was made from. -/
theorem word_ofKeyFamily? {w : Word} {instruction : Instruction} (family : w.family = 0xE)
    (decoded : ofKeyFamily? w = some instruction) : instruction.word = w := by
  unfold ofKeyFamily? at decoded
  split at decoded
  all_goals rename_i low
  all_goals first
    | contradiction
    | (cases decoded; exact wordOfByte_low family low)

/-- An instruction of the last family has the word it was made from. -/
theorem word_ofLastFamily? {w : Word} {instruction : Instruction} (family : w.family = 0xF)
    (decoded : ofLastFamily? w = some instruction) : instruction.word = w := by
  unfold ofLastFamily? at decoded
  split at decoded
  all_goals first
    | contradiction
    | (rename_i low; cases decoded; exact wordOfByte_low family low)

/-- The instruction that a word stands for is written as that word. -/
theorem word_of_ofWord? {w : Word} {instruction : Instruction}
    (decoded : ofWord? w = some instruction) : instruction.word = w := by
  have address := wordOfAddress_parts w
  have byte := wordOfByte_parts w
  have pair := wordOfPair_parts w
  have small : w.family < 16 := by
    have bound := w.toNat_lt
    simp only [Word.family]
    omega
  unfold ofWord? at decoded
  split at decoded
  case h_1 family =>
    cases decoded
    exact word_ofZeroFamily family
  case h_6 family =>
    split at decoded
    · rename_i low
      cases decoded
      rw [family, low] at pair
      exact pair
    · contradiction
  case h_9 family =>
    obtain ⟨op, named, rfl⟩ := Option.map_eq_some_iff.mp decoded
    rw [family, ← nibble_of_ofNibble? named] at pair
    exact pair
  case h_10 family =>
    split at decoded
    · rename_i low
      cases decoded
      rw [family, low] at pair
      exact pair
    · contradiction
  case h_14 family =>
    cases decoded
    rw [family] at pair
    exact pair
  case h_15 family => exact word_ofKeyFamily? family decoded
  case h_16 =>
    have family : w.family = 0xF := by grind
    exact word_ofLastFamily? family decoded
  all_goals
    rename_i family
    cases decoded
    rw [family] at address byte
    first | exact address | exact byte

/-! ### From instructions to words and back -/

/-- The fields of a word with an address are the family and the address. -/
theorem wordOfAddress_fields {family : Nat} (small : family < 16) (address : Address) :
    (wordOfAddress family address).family = family ∧
      (wordOfAddress family address).nnn = address := by
  have bound := address.isLt
  have number : (wordOfAddress family address).toNat = family * 4096 + address := by
    rw [wordOfAddress, UInt16.toNat_ofNat']
    omega
  constructor
  · rw [Word.family, number]
    omega
  · apply Fin.ext
    rw [Word.val_nnn, number]
    omega

/-- The fields of a word with a register and a byte are the family, the register and the byte. -/
theorem wordOfByte_fields {family : Nat} (small : family < 16) (x : Register) (byte : UInt8) :
    (wordOfByte family x byte).family = family ∧ (wordOfByte family x byte).x = x ∧
      (wordOfByte family x byte).nn = byte := by
  have first := x.isLt
  have rest := byte.toNat_lt
  have number : (wordOfByte family x byte).toNat = family * 4096 + x * 256 + byte.toNat := by
    rw [wordOfByte, UInt16.toNat_ofNat']
    omega
  refine ⟨?_, ?_, ?_⟩
  · rw [Word.family, number]
    omega
  · apply Fin.ext
    rw [Word.val_x, number]
    omega
  · apply UInt8.toNat_inj.mp
    rw [Word.toNat_nn, number]
    omega

/-- The fields of a word with two registers and four more bits are the family, the registers and
those bits. -/
theorem wordOfPair_fields {family low : Nat} (small : family < 16) (least : low < 16)
    (x y : Register) :
    (wordOfPair family x y low).family = family ∧ (wordOfPair family x y low).x = x ∧
      (wordOfPair family x y low).y = y ∧ (wordOfPair family x y low).n.val = low := by
  have first := x.isLt
  have second := y.isLt
  have number : (wordOfPair family x y low).toNat =
      family * 4096 + x * 256 + y * 16 + low := by
    rw [wordOfPair, UInt16.toNat_ofNat']
    omega
  refine ⟨?_, ?_, ?_, ?_⟩
  · rw [Word.family, number]
    omega
  · apply Fin.ext
    rw [Word.val_x, number]
    omega
  · apply Fin.ext
    rw [Word.val_y, number]
    omega
  · rw [Word.val_n, number]
    omega

/-- An operation is the one that its bits name. -/
theorem ofNibble?_nibble (op : AluOp) : AluOp.ofNibble? op.nibble = some op := by
  cases op with
  | _ => rfl

/-- The bits that name an operation are four. -/
theorem nibble_lt (op : AluOp) : op.nibble < 16 := by
  cases op with
  | _ => decide

/-- Whether the word of an instruction stands for no other one: two words of the zero family mean
more than a routine of the host. -/
def Proper : Instruction → Prop
  | .hostRoutine address => address.val ≠ 0x0E0 ∧ address.val ≠ 0x0EE
  | _ => True

/-- The other words of the zero family are those of routines. -/
theorem ofZeroFamily_hostRoutine (address : Address)
    (proper : (Instruction.hostRoutine address).Proper) :
    ofZeroFamily (wordOfAddress 0x0 address) = .hostRoutine address := by
  have bound := address.isLt
  have number : (wordOfAddress 0x0 address).toNat = address.val := by
    simp only [wordOfAddress, UInt16.toNat_ofNat']
    omega
  have notClear : wordOfAddress 0x0 address ≠ 0x00E0 := by
    intro same
    rw [same] at number
    exact proper.1 number.symm
  have notReturn : wordOfAddress 0x0 address ≠ 0x00EE := by
    intro same
    rw [same] at number
    exact proper.2 number.symm
  rw [ofZeroFamily, if_neg notClear, if_neg notReturn,
    (wordOfAddress_fields (by decide : 0x0 < 16) address).2]

/-- The word of an instruction stands for that instruction. -/
theorem ofWord?_word {instruction : Instruction} (proper : instruction.Proper) :
    ofWord? instruction.word = some instruction := by
  cases instruction with
  | clear => rfl
  | ret => rfl
  | hostRoutine address =>
    have family := (wordOfAddress_fields (by decide : 0x0 < 16) address).1
    simp only [word, ofWord?, family, ofZeroFamily_hostRoutine address proper]
  | alu op x y =>
    obtain ⟨family, first, second, last⟩ :=
      wordOfPair_fields (by decide : 0x8 < 16) (nibble_lt op) x y
    simp only [word, ofWord?, family, first, second, last, ofNibble?_nibble, Option.map_some]
  | draw x y rows =>
    obtain ⟨family, first, second, last⟩ :=
      wordOfPair_fields (by decide : 0xD < 16) rows.isLt x y
    simp only [word, ofWord?, family, first, second, Fin.ext last]
  | skip condition =>
    cases condition with
    | _ =>
      simp (disch := decide) only [word, ofWord?, ofKeyFamily?, wordOfByte_fields,
        wordOfPair_fields, if_true, UInt8.reduceToNat]
  | _ =>
    simp (disch := decide) only [word, ofWord?, ofLastFamily?, wordOfAddress_fields,
      wordOfByte_fields, UInt8.reduceToNat]

/-- A word stands for no instruction exactly when it is the word of none. -/
theorem ofWord?_eq_none_iff (w : Word) :
    ofWord? w = none ↔ ∀ instruction, word instruction ≠ w := by
  constructor
  · rintro missing instruction rfl
    by_cases proper : instruction.Proper
    · rw [ofWord?_word proper] at missing
      cases missing
    · cases instruction with
      | hostRoutine address =>
        have family := (wordOfAddress_fields (by decide : 0x0 < 16) address).1
        simp only [word, ofWord?, family, reduceCtorEq] at missing
      | _ => exact proper trivial
  · intro absent
    cases decoded : ofWord? w with
    | none => rfl
    | some instruction => exact absurd (word_of_ofWord? decoded) (absent instruction)

end Instruction

end Chip8
