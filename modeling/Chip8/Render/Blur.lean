import Chip8.Cyclic
import Chip8.Grid

/-!
# Box blur

Every value is replaced by the mean of itself and its two neighbours, first down the columns and
then along the rows. Edges meet, so every value has both neighbours. The arithmetic is whatever the
values bring along; sums are taken from the first neighbour to the last and then divided.
-/

namespace Chip8

namespace Grid

variable {α : Type} {height width : Nat}

/-- The mean of three values, given what to divide by. -/
def mean [Add α] [Div α] (three a b c : α) : α :=
  (a + b + c) / three

/-- Blurs every column. -/
def blurColumns [Add α] [Div α] (three : α) (g : Grid α height width) : Grid α height width :=
  ofFn fun r c => mean three (g.get (Cyclic.before r) c) (g.get r c) (g.get (Cyclic.after r) c)

/-- Blurs every row. -/
def blurRows [Add α] [Div α] (three : α) (g : Grid α height width) : Grid α height width :=
  ofFn fun r c => mean three (g.get r (Cyclic.before c)) (g.get r c) (g.get r (Cyclic.after c))

/-- One pass of the blur. -/
def blurOnce [Add α] [Div α] (three : α) (g : Grid α height width) : Grid α height width :=
  (g.blurColumns three).blurRows three

/-- So many passes of the blur. -/
def blur [Add α] [Div α] (three : α) (passes : Nat) (g : Grid α height width) :
    Grid α height width :=
  Nat.repeat (blurOnce three) passes g

end Grid

end Chip8
