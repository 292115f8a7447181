import Chip8.Cyclic
import Chip8.Grid
import Chip8.Signed

/-!
# Pictures and sprites

A picture is a grid of dark and lit pixels. A sprite is a column of bytes, each of them eight pixels
from left to right, most significant bit first. Drawing inverts the pixels under the lit pixels of
the sprite; opposite edges of the picture meet, so a sprite that leaves on one side comes in on the
other. Every cell of the sprite looks at the picture as it was before the drawing. The coordinates
of sprites have 64 bits.
-/

namespace Chip8

/-- A grid of pixels, each lit or dark. -/
abbrev Picture (width height : Nat) : Type :=
  Grid Bool height width

/-- One pixel of a sprite, counted from the sprite's upper left corner. -/
structure SpriteCell where
  row : Nat
  column : Nat
  lit : Bool
  deriving DecidableEq, Repr

namespace SpriteCell

/-- The pixel of a row in the given column. -/
def bit (bits : UInt8) (column : Nat) : Bool :=
  bits.toNat.testBit (7 - column)

/-- The pixels of a sprite, row by row and from left to right. -/
def ofRows (rows : List UInt8) : List SpriteCell :=
  rows.zipIdx.flatMap fun (bits, row) =>
    (List.range 8).map fun column => ⟨row, column, bit bits column⟩

end SpriteCell

/-- The ways in which a sprite cannot be drawn. -/
inductive DrawError where
  /-- A row is no number from 0 to 255. -/
  | rowOutOfRange
  /-- A coordinate does not fit 64 bits. -/
  | pointOutOfRange
  /-- The picture has no rows. -/
  | noRows
  /-- The picture has no columns. -/
  | noColumns
  deriving DecidableEq, Repr

/-- The rows of a sprite from numbers, all of which have to be bytes. -/
def spriteRows (values : List Int) : Except DrawError (List UInt8) :=
  if values.all fun v => 0 ≤ v && v < 256 then .ok (values.map UInt8.ofInt)
  else .error .rowOutOfRange

namespace Picture

variable {width height : Nat}

/-- A dark picture. -/
def blank (width height : Nat) : Picture width height :=
  Grid.replicate height width false

/-- Makes all pixels alike. -/
def fill (_ : Picture width height) (lit : Bool) : Picture width height :=
  Grid.replicate height width lit

/-- The number of lit pixels. -/
def litCount (p : Picture width height) : Nat :=
  p.toLists.foldl (fun total row => total + row.count true) 0

/-- Every row as text, `#` for a lit pixel and `.` for a dark one. -/
def textRows (p : Picture width height) : List String :=
  p.toLists.map fun row => String.ofList (row.map fun lit => if lit then '#' else '.')

variable [Cyclic.Positive width] [Cyclic.Positive height]

/-- The pixel that a point of the endlessly repeated picture shows. -/
def pixel (p : Picture width height) (x y : Int) : Bool :=
  p.get (Cyclic.wrap height y) (Cyclic.wrap width x)

/-- The index that a coordinate falls on when it is moved on by some steps. -/
def indexFrom (n : Nat) [Cyclic.Positive n] (start : Int64) (steps : Nat) : Fin n :=
  Cyclic.wrap n (start + Int64.ofNat steps).toInt

/-- The pixel of the picture under a cell of a sprite drawn at `(x, y)`. -/
def under (p : Picture width height) (x y : Int64) (cell : SpriteCell) : Bool :=
  p.get (indexFrom height y cell.row) (indexFrom width x cell.column)

/-- Draws one cell: its pixel becomes what it was in the picture `p`, inverted if the cell is
lit. -/
def drawCell (p : Picture width height) (x y : Int64) (drawn : Picture width height)
    (cell : SpriteCell) : Picture width height :=
  drawn.set (indexFrom height y cell.row) (indexFrom width x cell.column)
    (p.under x y cell ^^ cell.lit)

/-- Draws a sprite with its upper left corner at `(x, y)`. Where several cells fall on one pixel,
the last one decides. -/
def draw (p : Picture width height) (x y : Int64) (rows : List UInt8) : Picture width height :=
  (SpriteCell.ofRows rows).foldl (p.drawCell x y) p

/-- Whether a lit cell of a sprite drawn at `(x, y)` falls on a lit pixel. -/
def collides (p : Picture width height) (x y : Int64) (rows : List UInt8) : Bool :=
  (SpriteCell.ofRows rows).any fun cell => cell.lit && p.under x y cell

/-- Below the last number of 64 bits, moving on is adding. -/
theorem indexFrom_eq_wrap (n : Nat) [Cyclic.Positive n] (start : Int64) (steps : Nat)
    (fit : start.toInt + steps < 0x8000000000000000) :
    indexFrom n start steps = Cyclic.wrap n (start.toInt + steps) := by
  have low : -0x8000000000000000 ≤ start.toInt := Int64.le_toInt start
  have kept : (start.toInt + steps).bmod 0x10000000000000000 = start.toInt + steps :=
    Int.bmod_eq_of_le (by omega) (by omega)
  have sum : (start + Int64.ofNat steps).toInt = start.toInt + steps := by
    rw [Int64.toInt_add, Int64.toInt_ofNat', Int.add_bmod_bmod]
    exact kept
  rw [indexFrom, sum]

end Picture

namespace Picture

variable {width height : Nat}

/-- The pixel that a point of the endlessly repeated picture shows, if the picture has any. -/
def pixel? (p : Picture width height) (x y : Int) : Option Bool :=
  if tall : 0 < height then
    if wide : 0 < width then
      have : Cyclic.Positive height := ⟨tall⟩
      have : Cyclic.Positive width := ⟨wide⟩
      some (p.pixel x y)
    else none
  else none

/-- Whether a sprite collides at a point, and the picture with the sprite drawn there. The rows are
looked at first, and nothing is asked of a sprite without rows. -/
def tryDraw (p : Picture width height) (x y : Int) (values : List Int) :
    Except DrawError (Bool × Picture width height) :=
  match spriteRows values, Signed.ofInt? x, Signed.ofInt? y with
  | .error e, _, _ => .error e
  | .ok [], _, _ => .ok (false, p)
  | .ok rows, some x, some y =>
    if tall : 0 < height then
      if wide : 0 < width then
        have : Cyclic.Positive height := ⟨tall⟩
        have : Cyclic.Positive width := ⟨wide⟩
        .ok (p.collides x y rows, p.draw x y rows)
      else .error .noColumns
    else .error .noRows
  | _, _, _ => .error .pointOutOfRange

end Picture

end Chip8
