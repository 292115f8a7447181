import Chip8.Colour
import Chip8.Picture
import Chip8.Render.Blur

/-!
# Surfaces

What a picture looks like on the window. A surface is a grid of colours, column by column. The base
layer shows the picture in two colours; over it lies a glow, which is the picture enlarged, blurred
and tinted. The glow is computed in single precision at four times the size of the picture.
-/

namespace Chip8

/-- The colours of a rectangle of the window, by columns. -/
abbrev Surface (width height : Nat) : Type :=
  Grid Colour width height

namespace Surface

variable {width height : Nat}

/-- A picture in two colours. -/
def ofPicture (p : Picture width height) (foreground background : Colour) :
    Surface width height :=
  p.transpose.map fun lit => if lit then foreground else background

/-- Numbers in two colours: every number but zero is a lit pixel. -/
def ofNumbers (numbers : Grid UInt8 height width) (foreground background : Colour) :
    Surface width height :=
  ofPicture (numbers.map (· != 0)) foreground background

/-- The index among `n` that comes before the same share of them as `i` does among `k`. -/
def share (n : Nat) [Cyclic.Positive n] {k : Nat} (i : Fin k) : Fin n :=
  ⟨i * n / k, Nat.div_lt_of_lt_mul (Nat.mul_lt_mul_of_pos_right i.isLt Cyclic.Positive.pos)⟩

/-- The surface in another size: every point has the colour of the point in its place. -/
def resize [Cyclic.Positive width] [Cyclic.Positive height] (s : Surface width height)
    (width' height' : Nat) : Surface width' height' :=
  Grid.ofFn fun x y => s.get (share width x) (share height y)

/-- The size of a pixel in the glow layer. -/
def glowScale : Nat := 4

/-- The number of passes of the blur that spread the glow. -/
def glowPasses : Nat := 2

/-- The share of the foreground colour that a fully lit neighbourhood glows with. -/
def glowStrength : Float32 := 0.55

/-- A number cut to the range from zero to one. -/
def clamp (a : Float32) : Float32 :=
  if a < 0 then 0 else if 1 < a then 1 else a

/-- A byte scaled by a number from zero to one, with its fraction dropped. -/
def tintByte (intensity : Float32) (b : UInt8) : UInt8 :=
  (intensity * Float32.ofNat b.toNat).toUInt8

/-- A colour scaled by a number from zero to one. -/
def tint (colour : Colour) (intensity : Float32) : Colour where
  red := tintByte intensity colour.red
  green := tintByte intensity colour.green
  blue := tintByte intensity colour.blue

/-- How bright the glow is everywhere. -/
def luminance (p : Picture width height) : Grid Float32 (width * glowScale) (height * glowScale) :=
  let lit := (p.transpose.map fun lit => if lit then (1 : Float32) else 0).enlarge glowScale
  (lit.blur 3 glowPasses).map fun a => clamp (a * glowStrength)

/-- The glow layer. -/
def glow (p : Picture width height) (foreground : Colour) :
    Surface (width * glowScale) (height * glowScale) :=
  (luminance p).map (tint foreground)

/-- The sum of two bytes, at most 255. -/
def addByte (a b : UInt8) : UInt8 :=
  UInt8.ofNat (min 255 (a.toNat + b.toNat))

/-- The colour of two lights on top of each other. -/
def addColour (a b : Colour) : Colour where
  red := addByte a.red b.red
  green := addByte a.green b.green
  blue := addByte a.blue b.blue

end Surface

end Chip8
