import Chip8.Picture
import Mathlib.Data.List.Induction

/-!
# What a sprite does to a picture

Opposite edges of a picture meet, so on a small picture several cells of a sprite fall on one pixel.
Main statements: of the cells that fall on a pixel the last one decides, and it inverts the pixel as
it was before the drawing if it is lit; a pixel under no cell stays. Where no pixel is under two
cells, a drawing inverts the pixels under lit cells and no others.
-/

namespace Chip8

namespace SpriteCell

/-- The cells of a sprite are the eight columns of each of its rows. -/
theorem mem_ofRows (rows : List UInt8) (cell : SpriteCell) :
    cell ∈ ofRows rows ↔
      cell.column < 8 ∧ ∃ bits, rows[cell.row]? = some bits ∧ cell.lit = bit bits cell.column := by
  rw [ofRows, List.mem_flatMap]
  constructor
  · rintro ⟨⟨bits, row⟩, listed, member⟩
    obtain ⟨column, inside, rfl⟩ := List.mem_map.mp member
    exact ⟨List.mem_range.mp inside, bits, List.mk_mem_zipIdx_iff_getElem?.mp listed, rfl⟩
  · rintro ⟨inside, bits, listed, lit⟩
    refine ⟨(bits, cell.row), List.mk_mem_zipIdx_iff_getElem?.mpr listed, List.mem_map.mpr ?_⟩
    refine ⟨cell.column, List.mem_range.mpr inside, ?_⟩
    cases cell with
    | mk row column lit' =>
      simp only at lit
      rw [lit]

end SpriteCell

namespace Picture

variable {width height : Nat} [Cyclic.Positive width] [Cyclic.Positive height]

/-- Whether a cell of a sprite drawn at `(x, y)` falls on a pixel. -/
def fallsOn (x y : Int64) (r : Fin height) (c : Fin width) (cell : SpriteCell) : Bool :=
  indexFrom height y cell.row = r && indexFrom width x cell.column = c

/-- Whether a lit cell of a sprite drawn at `(x, y)` falls on a pixel. -/
def marks (x y : Int64) (rows : List UInt8) (r : Fin height) (c : Fin width) : Bool :=
  (SpriteCell.ofRows rows).any fun cell => fallsOn x y r c cell && cell.lit

/-- A cell falls on the pixel whose row and column it is moved to. -/
theorem fallsOn_iff (x y : Int64) (r : Fin height) (c : Fin width) (cell : SpriteCell) :
    fallsOn x y r c cell = true ↔
      indexFrom height y cell.row = r ∧ indexFrom width x cell.column = c := by
  rw [fallsOn, Bool.and_eq_true, decide_eq_true_eq, decide_eq_true_eq]

/-- A cell that is drawn decides on the pixel it falls on, and on no other. -/
theorem get_drawCell (p drawn : Picture width height) (x y : Int64) (cell : SpriteCell)
    (r : Fin height) (c : Fin width) :
    (p.drawCell x y drawn cell).get r c =
      if fallsOn x y r c cell then p.get r c ^^ cell.lit else drawn.get r c := by
  rw [drawCell, Grid.get_set]
  by_cases here : fallsOn x y r c cell = true
  · obtain ⟨row, column⟩ := (fallsOn_iff x y r c cell).mp here
    rw [if_pos ⟨row, column⟩, if_pos here, under, row, column]
  · rw [if_neg fun both => here ((fallsOn_iff x y r c cell).mpr both), if_neg here]

/-- Of cells that are drawn one after the other, the last one that falls on a pixel decides. -/
theorem get_foldl_drawCell (p drawn : Picture width height) (x y : Int64)
    (cells : List SpriteCell) (r : Fin height) (c : Fin width) :
    (cells.foldl (p.drawCell x y) drawn).get r c =
      match (cells.filter (fallsOn x y r c)).getLast? with
      | some cell => p.get r c ^^ cell.lit
      | none => drawn.get r c := by
  induction cells using List.reverseRecOn with
  | nil => rfl
  | append_singleton cells last ih =>
    rw [List.foldl_append, List.foldl_cons, List.foldl_nil, get_drawCell, List.filter_append, ih]
    by_cases here : fallsOn x y r c last = true
    · rw [if_pos here, List.filter_cons_of_pos here, List.filter_nil, List.getLast?_concat]
    · rw [if_neg here, List.filter_cons_of_neg here, List.filter_nil, List.append_nil]

/-- Of the cells of a sprite, the last one that falls on a pixel decides. -/
theorem get_draw (p : Picture width height) (x y : Int64) (rows : List UInt8) (r : Fin height)
    (c : Fin width) :
    (p.draw x y rows).get r c =
      match ((SpriteCell.ofRows rows).filter (fallsOn x y r c)).getLast? with
      | some cell => p.get r c ^^ cell.lit
      | none => p.get r c :=
  get_foldl_drawCell p p x y (SpriteCell.ofRows rows) r c

/-- A pixel under no two cells of a sprite is inverted if it is under a lit one, and else stays. -/
theorem get_draw_of_single (p : Picture width height) (x y : Int64) (rows : List UInt8)
    (r : Fin height) (c : Fin width)
    (single : ∀ a ∈ SpriteCell.ofRows rows, ∀ b ∈ SpriteCell.ofRows rows,
      fallsOn x y r c a = true → fallsOn x y r c b = true → a = b) :
    (p.draw x y rows).get r c = (p.get r c ^^ marks x y rows r c) := by
  rw [get_draw]
  cases last : ((SpriteCell.ofRows rows).filter (fallsOn x y r c)).getLast? with
  | none =>
    have none : ∀ cell ∈ SpriteCell.ofRows rows, ¬fallsOn x y r c cell = true :=
      List.filter_eq_nil_iff.mp (List.getLast?_eq_none_iff.mp last)
    have unmarked : marks x y rows r c = false := by
      rw [marks, List.any_eq_false]
      intro cell member lit
      exact none cell member (Bool.and_eq_true_iff.mp lit).1
    rw [unmarked, Bool.xor_false]
  | some cell =>
    obtain ⟨member, here⟩ := List.mem_filter.mp (List.mem_of_getLast? last)
    have lit : marks x y rows r c = cell.lit := by
      rw [marks, Bool.eq_iff_iff, List.any_eq_true]
      constructor
      · rintro ⟨other, listed, lit⟩
        rw [Bool.and_eq_true] at lit
        rw [single cell member other listed here lit.1]
        exact lit.2
      · intro lit
        exact ⟨cell, member, Bool.and_eq_true_iff.mpr ⟨here, lit⟩⟩
    rw [lit]

/-- A sprite collides when it marks a lit pixel. -/
theorem collides_iff (p : Picture width height) (x y : Int64) (rows : List UInt8) :
    p.collides x y rows = true ↔ ∃ r c, marks x y rows r c = true ∧ p.get r c = true := by
  rw [collides, List.any_eq_true]
  constructor
  · rintro ⟨cell, member, both⟩
    rw [Bool.and_eq_true] at both
    refine ⟨indexFrom height y cell.row, indexFrom width x cell.column, ?_, both.2⟩
    rw [marks, List.any_eq_true]
    exact ⟨cell, member, Bool.and_eq_true_iff.mpr ⟨(fallsOn_iff _ _ _ _ _).mpr ⟨rfl, rfl⟩, both.1⟩⟩
  · rintro ⟨r, c, marked, lit⟩
    rw [marks, List.any_eq_true] at marked
    obtain ⟨cell, member, both⟩ := marked
    rw [Bool.and_eq_true, fallsOn_iff] at both
    obtain ⟨⟨rfl, rfl⟩, cellLit⟩ := both
    exact ⟨cell, member, Bool.and_eq_true_iff.mpr ⟨cellLit, lit⟩⟩

end Picture

end Chip8
