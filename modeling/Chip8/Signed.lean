/-!
# Signed numbers of 64 bits

Coordinates and frequencies are counted in 64 bits: the greatest number is followed by the least. A
number that does not fit is refused before anything is counted.
-/

namespace Chip8.Signed

/-- Whether a number fits 64 bits with a sign. -/
def fits (i : Int) : Bool :=
  -0x8000000000000000 ≤ i && i < 0x8000000000000000

/-- A number in 64 bits, if it fits. -/
def ofInt? (i : Int) : Option Int64 :=
  if fits i then some (Int64.ofInt i) else none

/-- A number that fits is kept as it is. -/
theorem toInt_ofInt (i : Int) (fit : fits i = true) : (Int64.ofInt i).toInt = i := by
  simp only [fits, Bool.and_eq_true, decide_eq_true_eq] at fit
  exact Int64.toInt_ofInt_of_le fit.1 fit.2

end Chip8.Signed
