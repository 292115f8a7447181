import Chip8.Signed

/-!
# Colours

Colours as three bytes, shades as they are asked for, and the palette that the host offers.
-/

namespace Chip8

/-- A colour by its red, green and blue parts. -/
structure Colour where
  red : UInt8
  green : UInt8
  blue : UInt8
  deriving DecidableEq, Repr

/-- A colour as it is asked for: parts of any size, of which only bytes can be shown. -/
structure Shade where
  red : Int
  green : Int
  blue : Int
  deriving DecidableEq, Repr

/-- The ways in which a shade is no colour. -/
inductive ShadeError where
  /-- A part does not fit 64 bits. -/
  | partTooLong
  /-- A part is no byte. -/
  | partOutOfRange (part : Int)
  deriving DecidableEq, Repr

/-- A colour as a shade. -/
def Colour.shade (c : Colour) : Shade :=
  ⟨c.red.toNat, c.green.toNat, c.blue.toNat⟩

namespace Shade

/-- A part as a byte. -/
def byte (part : Int) : Except ShadeError UInt8 :=
  if 0 ≤ part ∧ part < 256 then .ok (UInt8.ofNat part.toNat)
  else if Signed.fits part then .error (.partOutOfRange part)
  else .error .partTooLong

/-- The colour that a shade is; the first part that is no byte is to blame if it is none. -/
def colour (s : Shade) : Except ShadeError Colour := do
  return ⟨← byte s.red, ← byte s.green, ← byte s.blue⟩

/-- A byte is kept as it is. -/
theorem byte_toNat (b : UInt8) : byte (b.toNat : Int) = .ok b := by
  have bound := b.toNat_lt
  have inside : 0 ≤ (b.toNat : Int) ∧ (b.toNat : Int) < 256 := by omega
  rw [byte, if_pos inside, Int.toNat_natCast, UInt8.ofNat_toNat]

/-- Every colour is the colour of its shade. -/
@[simp] theorem colour_shade (c : Colour) : c.shade.colour = .ok c := by
  simp only [colour, Colour.shade, byte_toNat]
  rfl

end Shade

namespace Palette

/-- The colour of dark pixels. -/
def dark : Colour := ⟨15, 15, 25⟩

/-- The colour of a green tube. -/
def green : Colour := ⟨0, 255, 128⟩

/-- The colour of an amber tube. -/
def amber : Colour := ⟨255, 176, 0⟩

/-- The colour of a white tube. -/
def white : Colour := ⟨220, 220, 220⟩

/-- The colour of a blue tube. -/
def blue : Colour := ⟨100, 180, 255⟩

/-- The colours for lit pixels by name, in the order in which they are offered. -/
def foregrounds : List (String × Colour) :=
  [("green", green), ("amber", amber), ("white", white), ("blue", blue)]

end Palette

end Chip8
