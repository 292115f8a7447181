import Chip8.Signed

/-!
# Zoom

How large the window is at a scale. Its sides are asked for as the sides of the screen times the
scale, and they are numbers of 32 bits: of a longer one the low bits are kept.
-/

namespace Chip8

/-- The ways in which a scale yields no window. -/
inductive ZoomError where
  /-- A side does not fit 64 bits. -/
  | sideTooLong
  | sideNegative
  deriving DecidableEq, Repr

/-- The error in words. -/
def ZoomError.message : ZoomError → String
  | .sideTooLong => "a side of the window does not fit 64 bits"
  | .sideNegative => "a side of the window is negative"

namespace Zoom

/-- What is kept of a side that is asked for. -/
def side (length : Int) : Except ZoomError Int :=
  if Signed.fits length then .ok (Int.bmod length 0x100000000) else .error .sideTooLong

/-- The width and the height of a window for which these sides are asked. -/
def sides (width height : Int) : Except ZoomError (Nat × Nat) := do
  let width ← side width
  let height ← side height
  if width < 0 ∨ height < 0 then .error .sideNegative else .ok (width.toNat, height.toNat)

/-- The width and the height of the window at a scale. -/
def ofScale (scale : Int) : Except ZoomError (Nat × Nat) :=
  sides (64 * scale) (32 * scale)

/-- A side of fewer than 32 bits is kept as it is. -/
theorem side_natCast {length : Nat} (short : length < 0x80000000) :
    side length = .ok (length : Int) := by
  have fit : Signed.fits length = true := by
    simp only [Signed.fits, Bool.and_eq_true, decide_eq_true_eq]
    omega
  have kept : Int.bmod length 0x100000000 = length := by
    apply Int.bmod_eq_of_le <;> omega
  rw [side, if_pos fit, kept]

/-- Sides of fewer than 32 bits are kept as they are. -/
theorem sides_natCast {width height : Nat} (short : width < 0x80000000)
    (low : height < 0x80000000) : sides width height = .ok (width, height) := by
  have inside : ¬((width : Int) < 0 ∨ (height : Int) < 0) := by omega
  rw [sides, side_natCast short, side_natCast low]
  change (if (width : Int) < 0 ∨ (height : Int) < 0 then Except.error ZoomError.sideNegative
    else Except.ok ((width : Int).toNat, (height : Int).toNat)) = _
  rw [if_neg inside, Int.toNat_natCast, Int.toNat_natCast]

end Zoom

end Chip8
