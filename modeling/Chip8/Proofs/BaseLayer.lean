import Chip8.Proofs.Glow
import Chip8.Render.Layers

/-!
# What the layers show

A picture is kept row by row and a surface column by column, so a picture is turned over before it
is enlarged. The window system is taken to make every point of the base layer a block of its colour
at the scale in question, and to make nothing brighter when it smooths the glow; of the usual window
system both is proved. Main statement: at every scale, each point of the base layer has the colour
of the pixel it lies in, so the picture can be read back from the layer when its two colours differ.
From the window, where the glow is added, it can be read back when the colours are further apart in
one of their parts than the glow is bright. Closer colours do not suffice: the glow may make up for
what a lit pixel lacks to the ground.
-/

namespace Chip8

namespace Grid

/-- The first index of a block. -/
def corner {n k : Nat} (positive : 0 < k) (i : Fin n) : Fin (n * k) :=
  ⟨i * k, Nat.mul_lt_mul_of_pos_right i.isLt positive⟩

@[simp] theorem block_corner {n k : Nat} (positive : 0 < k) (i : Fin n) :
    block (corner positive i) = i :=
  Fin.ext (Nat.mul_div_cancel i.val positive)

end Grid

namespace Picture

variable {width height : Nat}

/-- A picture in numbers: one for every lit pixel and zero for every dark one. -/
def numbers (p : Picture width height) : Grid UInt8 height width :=
  p.map fun lit => if lit then 1 else 0

end Picture

namespace Surface

variable {width height : Nat} (foreground background : Colour)

/-- The number in row `y` and column `x` decides on the colour at `(x, y)`. -/
theorem get_ofNumbers (numbers : Grid UInt8 height width) (x : Fin width) (y : Fin height) :
    (ofNumbers numbers foreground background).get x y =
      if numbers.get y x = 0 then background else foreground := by
  rw [ofNumbers, ofPicture, Grid.get_map, Grid.get_transpose, Grid.get_map]
  by_cases zero : numbers.get y x = 0
  · rw [if_pos zero, zero]
    rfl
  · rw [if_neg zero, if_pos (bne_iff_ne.mpr zero)]

/-- A picture has the colours of its numbers. -/
theorem ofNumbers_numbers (p : Picture width height) :
    ofNumbers p.numbers foreground background = ofPicture p foreground background := by
  have kept : p.numbers.map (· != 0) = p := by
    apply Grid.ext
    intro r c
    rw [Grid.get_map, Picture.numbers, Grid.get_map]
    cases p.get r c with
    | false => rfl
    | true => rfl
  rw [ofNumbers, kept]

/-- The base layer: every pixel as a block of `scale` by `scale`. -/
def base (scale : Nat) (p : Picture width height) :
    Surface (width * scale) (height * scale) :=
  (ofPicture p foreground background).enlarge scale

/-- A point of the base layer has the colour of the pixel it lies in. -/
theorem get_base (scale : Nat) (p : Picture width height) (x : Fin (width * scale))
    (y : Fin (height * scale)) :
    (base foreground background scale p).get x y =
      if p.get (Grid.block y) (Grid.block x) then foreground else background := by
  rw [base, Grid.get_enlarge, ← ofNumbers_numbers, get_ofNumbers, Picture.numbers, Grid.get_map]
  cases p.get (Grid.block y) (Grid.block x) with
  | false => rfl
  | true => rfl

section Reading

variable {foreground background : Colour} {scale : Nat} (positive : 0 < scale)

/-- Reads a picture off its base layer: a pixel is lit if the first point of its block has the
foreground colour. -/
def readBack (foreground : Colour) (layer : Surface (width * scale) (height * scale)) :
    Picture width height :=
  Grid.ofFn fun r c => layer.get (Grid.corner positive c) (Grid.corner positive r) = foreground

/-- In two different colours a picture can be read back. -/
theorem readBack_base (differ : foreground ≠ background) (p : Picture width height) :
    readBack positive foreground (base foreground background scale p) = p := by
  apply Grid.ext
  intro r c
  rw [readBack, Grid.get_ofFn, get_base, Grid.block_corner, Grid.block_corner]
  cases p.get r c with
  | false => exact decide_eq_false differ.symm
  | true => exact decide_eq_true rfl

/-- Reads a picture off a window by one part of its colours. Light is only ever added, so what is
darker there than the brighter of the two colours shows the darker one. -/
def readThrough (channel : Channel) (foreground background : Colour)
    (window : Surface (width * scale) (height * scale)) : Picture width height :=
  Grid.ofFn fun r c =>
    let shown := channel.of (window.get (Grid.corner positive c) (Grid.corner positive r))
    if channel.of background < channel.of foreground then channel.of foreground ≤ shown
    else shown < channel.of background

/-- A part of the colour of two lights is the sum of their parts, at most 255. -/
theorem toNat_addColour (channel : Channel) (a b : Colour) :
    (channel.of (addColour a b)).toNat =
      min 255 ((channel.of a).toNat + (channel.of b).toNat) := by
  have bytes (a b : UInt8) : (addByte a b).toNat = min 255 (a.toNat + b.toNat) := by
    rw [addByte, UInt8.toNat_ofNat']
    omega
  cases channel with
  | red => exact bytes a.red b.red
  | green => exact bytes a.green b.green
  | blue => exact bytes a.blue b.blue

/-- How far two colours are apart in a part. -/
def distance (channel : Channel) (a b : Colour) : Nat :=
  ((channel.of a).toNat - (channel.of b).toNat) + ((channel.of b).toNat - (channel.of a).toNat)

/-- Under a light that is nowhere as bright in some part as the colours are apart there, a picture
can be read back. -/
theorem readThrough_base (channel : Channel) {light : Surface (width * scale) (height * scale)}
    (dim : ∀ x y, (channel.of (light.get x y)).toNat < distance channel foreground background)
    (p : Picture width height) :
    readThrough positive channel foreground background
        (Grid.zipWith addColour (base foreground background scale p) light) = p := by
  apply Grid.ext
  intro r c
  have low := dim (Grid.corner positive c) (Grid.corner positive r)
  have byte := (channel.of foreground).toNat_lt
  have byte' := (channel.of background).toNat_lt
  rw [distance] at low
  rw [readThrough, Grid.get_ofFn, Grid.get_zipWith, get_base, Grid.block_corner,
    Grid.block_corner]
  simp only [UInt8.lt_iff_toNat_lt, UInt8.le_iff_toNat_le, toNat_addColour]
  cases p.get r c with
  | false => split <;> exact decide_eq_false (by simp; omega)
  | true => split <;> exact decide_eq_true (by simp; omega)

end Reading

/-! ### Other sizes -/

/-- Among so many blocks, the share of an index is its block. -/
theorem share_eq_block {n k : Nat} [Cyclic.Positive n] (i : Fin (n * k)) :
    share n i = Grid.block i := by
  apply Fin.ext
  show i.val * n / (n * k) = i.val / k
  rw [Nat.mul_comm i.val n]
  exact Nat.mul_div_mul_left i.val k Cyclic.Positive.pos

/-- Brought to a multiple of its size, a surface is enlarged. -/
theorem resize_mul [Cyclic.Positive width] [Cyclic.Positive height] (s : Surface width height)
    (k : Nat) : s.resize (width * k) (height * k) = s.enlarge k := by
  apply Grid.ext
  intro x y
  rw [resize, Grid.get_ofFn, Grid.get_enlarge, share_eq_block, share_eq_block]

/-- Brought to its own size, a surface stays. -/
theorem resize_self [Cyclic.Positive width] [Cyclic.Positive height] (s : Surface width height) :
    s.resize width height = s := by
  have same {n : Nat} [Cyclic.Positive n] (i : Fin n) : share n i = i :=
    Fin.ext (Nat.mul_div_cancel i.val Cyclic.Positive.pos)
  apply Grid.ext
  intro x y
  rw [resize, Grid.get_ofFn, same, same]

end Surface

namespace Scaling

/-- Whether every point of a picture becomes a block of `scale` by `scale`. -/
def CopiesBlocks (scaling : Scaling) (scale : Nat) : Prop :=
  ∀ picture : Surface 64 32, scaling.stretch picture (64 * (scale : Int)) (32 * (scale : Int)) =
    .ok ⟨64 * scale, 32 * scale, picture.enlarge scale⟩

/-- Whether smoothing to a size makes no part of the colours brighter than it is somewhere in the
glow. -/
def NeverBrightens (scaling : Scaling) (width height : Nat) : Prop :=
  ∀ (glow : Surface 256 128) (channel : Channel) (limit : Nat),
    (∀ x y, (channel.of (glow.get x y)).toNat ≤ limit) →
      ∀ x y, (channel.of ((scaling.smooth glow width height).get x y)).toNat ≤ limit

/-- Whether the glow is left as it is at its own size. -/
def KeepsGlow (scaling : Scaling) : Prop :=
  ∀ glow, scaling.smooth glow 256 128 = glow

/-- The usual window system copies blocks where surfaces can be as large. -/
theorem desktop_copiesBlocks {scale : Nat}
    (room : 3 * (64 * scale) * (32 * scale) < byteLimit) : desktop.CopiesBlocks scale := by
  intro picture
  have side : 64 * scale < 0x80000000 := by
    by_cases short : 64 * scale < 0x80000000
    · exact short
    · have area : byteLimit * 1 ≤ 3 * (64 * scale) * (32 * scale) :=
        Nat.mul_le_mul (show 0x80000000 ≤ _ by omega) (by omega)
      omega
  have sides : (Zoom.sides (64 * scale : Nat) (32 * scale : Nat)).mapError ShowError.zoom =
      .ok (64 * scale, 32 * scale) :=
    congrArg (Except.mapError _) (Zoom.sides_natCast side (by omega))
  show (Zoom.sides (64 * scale : Nat) (32 * scale : Nat)).mapError ShowError.zoom >>= _ = _
  rw [sides]
  change (if byteLimit ≤ 3 * (64 * scale) * (32 * scale) then _ else _) = _
  rw [if_neg (Nat.not_le.mpr room), Surface.resize_mul]

/-- The usual window system leaves the glow as it is at its own size. -/
theorem desktop_keepsGlow : desktop.KeepsGlow :=
  Surface.resize_self

end Scaling

namespace Layers

/-- Where blocks are copied, a screen has its base layer and its smoothed glow. -/
theorem ofScreen_eq_ok {scaling : Scaling} {scale : Nat} (copies : scaling.CopiesBlocks scale)
    (screen : Screen) (foreground background : Colour) :
    ofScreen scaling screen scale foreground.shade background.shade = .ok
      { width := 64 * scale
        height := 32 * scale
        base := Surface.base foreground background scale screen
        glow := scaling.smooth (Surface.glow screen foreground) (64 * scale) (32 * scale) } := by
  rw [ofScreen, Shade.colour_shade, Shade.colour_shade]
  change (do
    let sheet ← scaling.stretch (Surface.ofPicture screen foreground background)
      (64 * (scale : Int)) (32 * (scale : Int))
    return {
      width := sheet.width
      height := sheet.height
      base := sheet.points
      glow := scaling.smooth (Surface.glow screen foreground) sheet.width sheet.height } :
    Except ShowError Layers) = _
  rw [copies]
  rfl

/-- Whether two colours are further apart in a part than the glow of the first is bright there. -/
def Apart (channel : Channel) (foreground background : Colour) : Prop :=
  11 * (channel.of foreground).toNat < 20 * Surface.distance channel foreground background

instance (channel : Channel) (foreground background : Colour) :
    Decidable (Apart channel foreground background) :=
  inferInstanceAs (Decidable (_ < _))

/-- Colours that are apart in some part are different. -/
theorem Apart.ne {channel : Channel} {foreground background : Colour}
    (apart : Apart channel foreground background) : foreground ≠ background := by
  rintro rfl
  rw [Apart, Surface.distance] at apart
  omega

/-- In colours that are further apart than the glow is bright, the window tells the screen. -/
theorem readThrough_window {scaling : Scaling} {scale : Nat} (positive : 0 < scale)
    (dims : scaling.NeverBrightens (64 * scale) (32 * scale)) {channel : Channel}
    {foreground background : Colour} (apart : Apart channel foreground background)
    (screen : Screen) :
    Surface.readThrough positive channel foreground background
      (Grid.zipWith Surface.addColour (Surface.base foreground background scale screen)
        (scaling.smooth (Surface.glow screen foreground) (64 * scale) (32 * scale))) = screen := by
  have dim := dims (Surface.glow screen foreground) channel
    (11 * (channel.of foreground).toNat / 20) fun x y =>
      (Nat.le_div_iff_mul_le (by decide)).mpr
        (Nat.mul_comm _ _ ▸ Surface.glow_dim screen foreground channel x y)
  rw [Apart] at apart
  refine Surface.readThrough_base positive channel (fun x y => ?_) screen
  exact Nat.lt_of_le_of_lt (dim x y) (by omega)

open Surface (glowScale)

end Layers

end Chip8
