import Chip8.Proofs.Effects

/-!
# Sprites on the screen

Which pixels of the screen a drawing instruction reaches, told from memory and registers alone. A
sprite is eight columns wide and at most fifteen rows high, so no pixel of the screen is under two
of its cells. Main statements: drawing inverts the pixels that the sprite marks and no others, and
the sprite collides exactly when it marks a lit pixel.
-/

namespace Chip8

/-- From a byte, moving on by a few steps is adding, around the end. -/
theorem Picture.indexFrom_byte (n : Nat) [Cyclic.Positive n] (start : UInt8) {steps : Nat}
    (few : steps < 256) :
    (indexFrom n (Int64.ofNat start.toNat) steps).val = (start.toNat + steps) % n := by
  have bound := start.toNat_lt
  have number : (Int64.ofNat start.toNat).toInt = start.toNat :=
    Int64.toInt_ofNat_of_lt (by omega)
  rw [indexFrom_eq_wrap n _ steps (by omega), number, ← Int.natCast_add, Cyclic.val_wrap_natCast]

namespace Machine

variable (m : Machine) (x y : Register) (rows : Nibble) (r : Fin 32) (c : Fin 64)

/-- Whether the cell in a row and column of a sprite, drawn at the point that the registers `x` and
`y` give, falls on a pixel of the screen. -/
def CellFallsOn (row column : Nat) : Prop :=
  ((m.registers.get y).toNat + row) % 32 = r ∧ ((m.registers.get x).toNat + column) % 64 = c

/-- Whether a pixel is under a sprite of so many rows. -/
def UnderSprite : Prop :=
  ∃ row < rows.val, ∃ column < 8, m.CellFallsOn x y r c row column

/-- Whether a sprite of so many rows puts a one on a pixel. Its rows are the bytes from where the
low twelve bits of the index register point, most significant bit first. -/
def Marks : Prop :=
  ∃ row < rows.val, ∃ column < 8,
    (m.memory.byteAt (m.registers.index.toNat % 4096 + row)).toNat.testBit (7 - column) = true ∧
      m.CellFallsOn x y r c row column

instance (row column : Nat) : Decidable (m.CellFallsOn x y r c row column) :=
  inferInstanceAs (Decidable (_ ∧ _))

instance : Decidable (m.Marks x y rows r c) :=
  inferInstanceAs (Decidable
    (∃ row < rows.val, ∃ column < 8, _ = true ∧ m.CellFallsOn x y r c row column))

/-- The cells of the sprite that the index register points at. -/
theorem mem_cells (cell : SpriteCell) :
    cell ∈ SpriteCell.ofRows (m.sprite rows) ↔
      cell.row < rows.val ∧ cell.column < 8 ∧
        cell.lit = (m.memory.byteAt (m.blockStart + cell.row)).toNat.testBit (7 - cell.column) := by
  rw [SpriteCell.mem_ofRows, sprite, Memory.getElem?_bytesAt]
  constructor
  · rintro ⟨column, bits, row, lit⟩
    obtain ⟨inside, ⟨⟩⟩ := Option.ite_none_right_eq_some.mp row
    exact ⟨inside, column, lit⟩
  · rintro ⟨inside, column, lit⟩
    exact ⟨column, _, if_pos inside, lit⟩

/-- Where a cell of a sprite falls is told by the registers. -/
theorem fallsOn_iff_cellFallsOn {cell : SpriteCell}
    (member : cell ∈ SpriteCell.ofRows (m.sprite rows)) :
    Picture.fallsOn (Int64.ofNat (m.registers.get x).toNat)
        (Int64.ofNat (m.registers.get y).toNat) r c cell = true ↔
      m.CellFallsOn x y r c cell.row cell.column := by
  obtain ⟨row, column, _⟩ := (m.mem_cells rows cell).mp member
  have height := rows.isLt
  rw [Picture.fallsOn_iff, CellFallsOn, Fin.ext_iff, Fin.ext_iff,
    Picture.indexFrom_byte 32 _ (by omega), Picture.indexFrom_byte 64 _ (by omega)]

/-- The lit cells of a sprite fall on the pixels that it marks. -/
theorem marks_iff :
    Picture.marks (Int64.ofNat (m.registers.get x).toNat)
        (Int64.ofNat (m.registers.get y).toNat) (m.sprite rows) r c = true ↔
      m.Marks x y rows r c := by
  rw [Picture.marks, List.any_eq_true]
  constructor
  · rintro ⟨cell, member, both⟩
    obtain ⟨here, lit⟩ := Bool.and_eq_true_iff.mp both
    obtain ⟨row, column, bit⟩ := (m.mem_cells rows cell).mp member
    exact ⟨cell.row, row, cell.column, column, bit.symm.trans lit,
      (m.fallsOn_iff_cellFallsOn x y rows r c member).mp here⟩
  · rintro ⟨row, inside, column, within, one, here⟩
    have member : ⟨row, column, true⟩ ∈ SpriteCell.ofRows (m.sprite rows) :=
      (m.mem_cells rows _).mpr ⟨inside, within, one.symm⟩
    exact ⟨_, member, Bool.and_eq_true_iff.mpr
      ⟨(m.fallsOn_iff_cellFallsOn x y rows r c member).mpr here, rfl⟩⟩

/-- No pixel of the screen is under two cells of a sprite. -/
theorem cell_unique {a b : SpriteCell} (first : a ∈ SpriteCell.ofRows (m.sprite rows))
    (second : b ∈ SpriteCell.ofRows (m.sprite rows))
    (here : m.CellFallsOn x y r c a.row a.column)
    (too : m.CellFallsOn x y r c b.row b.column) : a = b := by
  obtain ⟨rowA, columnA, litA⟩ := (m.mem_cells rows a).mp first
  obtain ⟨rowB, columnB, litB⟩ := (m.mem_cells rows b).mp second
  have height := rows.isLt
  have row : a.row = b.row := by
    have same := here.1.trans too.1.symm
    omega
  have column : a.column = b.column := by
    have same := here.2.trans too.2.symm
    omega
  rw [row, column, ← litB] at litA
  cases a with
  | mk row' column' lit' =>
    simp only at row column litA
    rw [row, column, litA]

/-- Drawing a sprite inverts the pixels that it marks, and no others. -/
theorem get_screenAfter_draw :
    (m.screenAfter (.draw x y rows)).get r c =
      (m.screen.get r c ^^ decide (m.Marks x y rows r c)) := by
  have drawn := Picture.get_draw_of_single m.screen (Int64.ofNat (m.registers.get x).toNat)
    (Int64.ofNat (m.registers.get y).toNat) (m.sprite rows) r c (by
      intro a first b second here too
      exact m.cell_unique x y rows r c first second
        ((m.fallsOn_iff_cellFallsOn x y rows r c first).mp here)
        ((m.fallsOn_iff_cellFallsOn x y rows r c second).mp too))
  have marked : Picture.marks (Int64.ofNat (m.registers.get x).toNat)
      (Int64.ofNat (m.registers.get y).toNat) (m.sprite rows) r c =
        decide (m.Marks x y rows r c) := by
    rw [Bool.eq_iff_iff, marks_iff, decide_eq_true_eq]
  rw [marked] at drawn
  exact drawn

/-- A pixel that is not under a sprite stays as it is. -/
theorem get_screenAfter_draw_of_beside (beside : ¬m.UnderSprite x y rows r c) :
    (m.screenAfter (.draw x y rows)).get r c = m.screen.get r c := by
  have unmarked : ¬m.Marks x y rows r c := by
    rintro ⟨row, inside, column, within, _, here⟩
    exact beside ⟨row, inside, column, within, here⟩
  rw [get_screenAfter_draw, decide_eq_false unmarked, Bool.xor_false]

/-- A sprite collides when it marks a lit pixel. -/
theorem spriteCollides_iff :
    m.spriteCollides (m.registers.get x) (m.registers.get y) (m.sprite rows) = true ↔
      ∃ r c, m.Marks x y rows r c ∧ m.screen.get r c = true := by
  rw [spriteCollides, Picture.collides_iff]
  simp only [marks_iff]

end Machine

end Chip8
