import Chip8.Proofs.Rounding
import Chip8.Render.Surface

/-!
# How bright the glow is

A blur takes means, and a mean of three numbers from zero to one is one of them in single precision
too, since no step is rounded above one. What is left of one in the strength of the glow is the
greatest brightness there is. Main statement: no part of the glow is brighter than eleven twentieths
of that part of the foreground colour, for pictures of any size.
-/

namespace Chip8

open Float.Model (Format UnpackedFloat)

namespace Grid

variable {α : Type} [Add α] [Div α] {height width : Nat} {three : α} {P : α → Prop}

/-- The value of a blur at a point, made of the values around the point. -/
def blurAt (three : α) : Nat → (Fin height → Fin width → α) → Fin height → Fin width → α
  | 0, value => value
  | passes + 1, value =>
    let column (r : Fin height) (c : Fin width) : α :=
      mean three (blurAt three passes value (Cyclic.before r) c) (blurAt three passes value r c)
        (blurAt three passes value (Cyclic.after r) c)
    fun r c => mean three (column r (Cyclic.before c)) (column r c) (column r (Cyclic.after c))

/-- A blur is made point by point. -/
theorem get_blur (g : Grid α height width) (passes : Nat) (r : Fin height) (c : Fin width) :
    (g.blur three passes).get r c = blurAt three passes g.get r c := by
  induction passes generalizing r c with
  | zero => rfl
  | succ passes ih =>
    show ((g.blur three passes).blurOnce three).get r c = _
    simp only [blurOnce, blurRows, blurColumns, get_ofFn, blurAt, ih]

/-- What means keep of values, a blur keeps of those of a grid. -/
theorem forall_blurAt (means : ∀ a b c, P a → P b → P c → P (mean three a b c))
    {value : Fin height → Fin width → α} (all : ∀ r c, P (value r c)) (passes : Nat)
    (r : Fin height) (c : Fin width) : P (blurAt three passes value r c) := by
  induction passes generalizing r c with
  | zero => exact all r c
  | succ passes ih =>
    have column (r : Fin height) (c : Fin width) := means _ _ _ (ih (Cyclic.before r) c) (ih r c)
      (ih (Cyclic.after r) c)
    exact means _ _ _ (column _ _) (column _ _) (column _ _)

end Grid

namespace Single

open Float.Model.UnpackedFloat

/-- Whether a number of single precision is neither negative nor greater than the ceiling. -/
def Below (c : Ceiling) (a : Float32) : Prop :=
  AtMost c a.toModel.unpack

variable {a b d : Float32}

/-- Nothing is not above any ceiling. -/
theorem below_zero (c : Ceiling) : Below c 0 :=
  AtMost.zero

/-- One is at most one. -/
theorem below_one : Below (Ceiling.whole 1 (by decide)) 1 := by
  have one : (1 : Float32).toModel.unpack = .finite .positive (2 ^ 23) (-23) (by decide) := rfl
  rw [Below, one]
  exact .finite _ (by decide) (by decide) (by decide)

/-- The mean of three numbers from zero to one is one of them. -/
theorem Below.mean (first : Below (Ceiling.whole 1 (by decide)) a)
    (second : Below (Ceiling.whole 1 (by decide)) b)
    (third : Below (Ceiling.whole 1 (by decide)) d) :
    Below (Ceiling.whole 1 (by decide)) (Grid.mean 3 a b d) := by
  have sum : Below (Ceiling.whole 2 (by decide)) (a + b) := (first.add second).unpack_pack
  have sum : Below (Ceiling.whole 3 (by decide)) (a + b + d) := (AtMost.add sum third).unpack_pack
  exact (AtMost.third sum).unpack_pack

/-- The greatest brightness of the glow. -/
def brightest : Ceiling where
  mantissa := 9227469
  exponent := -24
  short := by decide
  low := by decide
  high := by decide

/-- What is left of a number from zero to one in the strength of the glow. -/
theorem Below.strength (most : Below (Ceiling.whole 1 (by decide)) a) :
    Below brightest (a * Surface.glowStrength) := by
  have strength : AtMost brightest Surface.glowStrength.toModel.unpack :=
    .finite (m := 9227469) (e := -24) (by decide) (by decide) (by decide) (by decide)
  exact (most.mul strength (Int.le_refl _) (by decide)).unpack_pack

/-- No number below the greatest brightness is greater than one. -/
theorem Below.not_one_lt (most : Below brightest a) : ¬1 < a := by
  intro greater
  have more : Float32.lt 1 a = true := greater
  have more : (1 : Float32).toModel.unpack.lt a.toModel.unpack = true := of_decide_eq_true more
  have one : (1 : Float32).toModel.unpack = .finite .positive (2 ^ 23) (-23) (by decide) := rfl
  rw [one, UnpackedFloat.lt] at more
  unfold Below at most
  generalize a.toModel.unpack = f at most more
  cases most with
  | zero => exact absurd more (by decide)
  | @finite m e positive least order below =>
    have order : e < -23 := Int.lt_of_le_of_lt order (by decide)
    have greater : compare (-23) e = .gt := Int.compare_eq_gt.mpr order
    simp only [UnpackedFloat.compare, greater] at more
    exact absurd more Bool.false_ne_true

/-- Cutting to the range from zero to one leaves a number below the greatest brightness there. -/
theorem Below.clamp (most : Below brightest a) : Below brightest (Surface.clamp a) := by
  rw [Surface.clamp, if_neg most.not_one_lt]
  split
  · exact below_zero _
  · exact most

/-- A byte is at most itself in single precision. -/
theorem below_byte (b : UInt8) (short : b.toNat < 2 ^ 24) :
    Below (Ceiling.whole b.toNat short) (Float32.ofNat b.toNat) := by
  have byte := b.toNat_lt
  have word : b.toNat.toUInt64.toNat = b.toNat := by
    rw [Nat.toUInt64, UInt64.toNat_ofNat']
    omega
  have one : AtMost (Ceiling.whole 1 (by decide))
      Float32.exactlyRepresentablePowersOfTen[0].toModel.unpack :=
    .finite (m := 2 ^ 23) (e := -23) (by decide) (by decide) (by decide) (by decide)
  have number : AtMost (Ceiling.whole b.toNat short)
      (UnpackedFloat.ofUInt64 Format.binary32 b.toNat.toUInt64) := by
    rw [UnpackedFloat.ofUInt64, word]
    exact atMost_ofNat short
  have few : b.toNat < 2 ^ 23 ∧ 0 ≤ 10 := by omega
  have scaled : Float32.ofNat b.toNat =
      b.toNat.toUInt64.toFloat32 * Float32.exactlyRepresentablePowersOfTen[0] := by
    change Float32.ofScientific b.toNat false 0 = _
    rw [Float32.ofScientific, dif_pos few]
    rfl
  rw [scaled]
  refine AtMost.unpack_pack (AtMost.mul number.unpack_pack one ?_ (Nat.le_refl _))
  exact Int.le_refl 0

/-- A part of the glow is at most eleven twentieths of that part of the colour. -/
theorem Below.tintByte (most : Below brightest a) (b : UInt8) :
    20 * (Surface.tintByte a b).toNat ≤ 11 * b.toNat := by
  have byte := b.toNat_lt
  have product : AtMost (Ceiling.cutTo (11 * b.toNat / 20) (by omega))
      (UnpackedFloat.mul Format.binary32 a.toModel.unpack
        (Float32.ofNat b.toNat).toModel.unpack) := by
    refine AtMost.mul most (below_byte b (by omega)) (show (-24 : Int) + 0 ≤ -8 by decide) ?_
    change 9227469 * b.toNat ≤ (11 * b.toNat / 20 * 256 + 255) * 2 ^ 16
    omega
  have cut : (a * Float32.ofNat b.toNat).toUInt8.toNat ≤ 11 * b.toNat / 20 :=
    product.unpack_pack.toUInt8_le
  rw [Surface.tintByte]
  omega

end Single

/-- A part of a colour. -/
inductive Channel where
  | red
  | green
  | blue
  deriving DecidableEq, Repr

/-- That part of a colour. -/
def Channel.of : Channel → Colour → UInt8
  | .red, c => c.red
  | .green, c => c.green
  | .blue, c => c.blue

namespace Surface

open Single

variable {width height : Nat} (p : Picture width height) (foreground : Colour)

/-- How bright a point of the enlarged picture is before the blur. -/
def lightAt (x : Fin (width * glowScale)) (y : Fin (height * glowScale)) : Float32 :=
  if p.get (Grid.block y) (Grid.block x) then 1 else 0

/-- The brightness of the glow at a point, made of the light around the point. -/
theorem get_luminance (x : Fin (width * glowScale)) (y : Fin (height * glowScale)) :
    (luminance p).get x y =
      clamp (Grid.blurAt 3 glowPasses (lightAt p) x y * glowStrength) := by
  have light :
      ((p.transpose.map fun lit => if lit then (1 : Float32) else 0).enlarge glowScale).get =
        lightAt p := by
    funext x y
    rw [Grid.get_enlarge, Grid.get_map, Grid.get_transpose, lightAt]
  rw [luminance, Grid.get_map, Grid.get_blur, light]

/-- The brightness of the glow is at most the greatest one. -/
theorem luminance_below (x : Fin (width * glowScale)) (y : Fin (height * glowScale)) :
    Below brightest ((luminance p).get x y) := by
  have lit (x : Fin (width * glowScale)) (y : Fin (height * glowScale)) :
      Below (Ceiling.whole 1 (by decide)) (lightAt p x y) := by
    rw [lightAt]
    split
    · exact below_one
    · exact below_zero _
  have blurred := Grid.forall_blurAt (P := Below (Ceiling.whole 1 (by decide)))
    (fun _ _ _ => Below.mean) lit glowPasses x y
  rw [get_luminance]
  exact blurred.strength.clamp

/-- No part of the glow is brighter than eleven twentieths of that part of the foreground
colour. -/
theorem glow_dim (channel : Channel) (x : Fin (width * glowScale))
    (y : Fin (height * glowScale)) :
    20 * (channel.of ((glow p foreground).get x y)).toNat ≤
      11 * (channel.of foreground).toNat := by
  have below := luminance_below p x y
  rw [glow, Grid.get_map]
  cases channel with
  | red => exact below.tintByte foreground.red
  | green => exact below.tintByte foreground.green
  | blue => exact below.tintByte foreground.blue

end Surface

end Chip8
