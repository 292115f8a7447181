import Chip8.Machine.Basic
import Chip8.Render.Surface
import Chip8.Render.Zoom

/-!
# Layers

The two layers of the screen as they are asked for: in any shades and at any scale. Both are brought
to the size of the window by the window system, which is not part of the program: what it does is a
parameter, and `Scaling.desktop` is what a usual one does.
-/

namespace Chip8

/-- The ways in which the screen cannot be shown. -/
inductive ShowError where
  /-- A shade is no colour. -/
  | shade (error : ShadeError)
  /-- The scale yields no window. -/
  | zoom (error : ZoomError)
  /-- The window has more bytes than a surface can have. -/
  | outOfMemory
  deriving DecidableEq, Repr

/-- A surface of any size. -/
structure Sheet where
  width : Nat
  height : Nat
  points : Surface width height

/-- What the window system is asked to do with the layers. -/
structure Scaling where
  /-- Brings the picture to the sides asked for. -/
  stretch : Surface 64 32 → (width height : Int) → Except ShowError Sheet
  /-- Brings the glow to the size of a surface that there is already. -/
  smooth : Surface 256 128 → (width height : Nat) → Surface width height

namespace Scaling

/-- The number of bytes that no surface reaches. -/
def byteLimit : Nat := 0x80000000

/-- A window system with surfaces of limited size that stretches a picture by its nearest points.
Smoothing is told truly at the size of the glow only, where nothing is to be smoothed. -/
def desktop : Scaling where
  stretch picture width height := do
    let (width, height) ← (Zoom.sides width height).mapError .zoom
    if byteLimit ≤ 3 * width * height then .error .outOfMemory
    else .ok ⟨width, height, picture.resize width height⟩
  smooth glow width height := glow.resize width height

end Scaling

/-- The base layer and the glow, both as large as the window. -/
structure Layers where
  width : Nat
  height : Nat
  base : Surface width height
  glow : Surface width height

namespace Layers

/-- The layers of a screen. The shades are looked at before the scale. -/
def ofScreen (scaling : Scaling) (screen : Screen) (scale : Int) (foreground background : Shade) :
    Except ShowError Layers := do
  let foreground ← foreground.colour.mapError .shade
  let background ← background.colour.mapError .shade
  let sheet ← scaling.stretch (Surface.ofPicture screen foreground background)
    (64 * scale) (32 * scale)
  return {
    width := sheet.width
    height := sheet.height
    base := sheet.points
    glow := scaling.smooth (Surface.glow screen foreground) sheet.width sheet.height }

/-- What the window shows: the base layer with the glow added. -/
def window (layers : Layers) : Surface layers.width layers.height :=
  Grid.zipWith Surface.addColour layers.base layers.glow

end Layers

end Chip8
