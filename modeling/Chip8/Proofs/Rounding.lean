import Mathlib

/-!
# Rounding below a ceiling

Single precision rounds every result to the nearest number that it has. What is at most a number
that it has is therefore not rounded above it. This is carried through the standard definitions of
`Float32`: the bits that a shift drops, the rounding, the packing into a word, and then addition,
multiplication, division by three and conversion from and to whole numbers. Only numbers that are
not negative are considered, and only ceilings far below the greatest number, so nothing overflows.
-/

open Float.Model (Format totalExponent UnpackedFloat)
open Float.Model.UnpackedFloat

namespace Chip8.Single

/-- Whether what a mantissa and the bits shifted out of it stand for is at most a number. -/
def Fits (em : ExtendedMantissa) (bound : Nat) : Prop :=
  em.mantissa < bound ∨ em.mantissa = bound ∧ em.roundBit = false ∧ em.stickyBit = false

variable {em : ExtendedMantissa} {bound m : Nat} {e : Int} {accuracy : Accuracy}

/-- Halving keeps a mantissa below half the bound. -/
theorem Fits.shiftRightOne (fits : Fits em (bound * 2)) : Fits em.shiftRightOne bound := by
  obtain below | ⟨same, round, sticky⟩ := fits
  · by_cases half : em.mantissa / 2 = bound
    · omega
    · exact .inl (show em.mantissa / 2 < bound by omega)
  · have even : em.mantissa % 2 = 0 := by omega
    refine .inr ⟨show em.mantissa / 2 = bound by omega, ?_, ?_⟩
    · simp [ExtendedMantissa.shiftRightOne, even]
    · simp [ExtendedMantissa.shiftRightOne, round, sticky]

/-- So does any number of halvings. -/
theorem Fits.shiftRight {n : Nat} (fits : Fits em (bound * 2 ^ n)) : Fits (em >>> n) bound := by
  change Fits (Nat.repeat ExtendedMantissa.shiftRightOne n em) bound
  induction n generalizing bound with
  | zero => rwa [Nat.pow_zero, Nat.mul_one] at fits
  | succ n ih =>
    apply shiftRightOne
    apply ih
    rwa [Nat.mul_assoc, ← Nat.pow_succ']

/-- Rounding to the nearest mantissa does not pass the bound. -/
theorem Fits.roundedMantissa_le (fits : Fits em bound) : em.roundedMantissa ≤ bound := by
  cases em with
  | mk m round sticky =>
    obtain below | ⟨rfl, rfl, rfl⟩ := fits
    · change m < bound at below
      -- A mantissa is rounded up by one at most.
      match round, sticky with
      | false, false => exact Nat.le_of_lt below
      | false, true => exact Nat.le_of_lt below
      | true, false =>
        show m + m % 2 ≤ bound
        omega
      | true, true => exact below
    · exact Nat.le_refl _

/-- A mantissa below the bound fits whatever was cut off it. -/
theorem fits_of_lt (below : m < bound) (accuracy : Accuracy) :
    Fits (ExtendedMantissa.ofMantissaAndAccuracy m accuracy) bound := by
  left
  match accuracy with
  | .exact => exact below
  | .inexact .lt => exact below
  | .inexact .eq => exact below
  | .inexact .gt => exact below

/-- A mantissa that nothing was cut off fits if it is at most the bound. -/
theorem fits_exact (low : m ≤ bound) :
    Fits (ExtendedMantissa.ofMantissaAndAccuracy m .exact) bound := by
  rcases Nat.lt_or_eq_of_le low with below | same
  · exact fits_of_lt below .exact
  · exact .inr ⟨same, rfl, rfl⟩

/-- A number that single precision has: `mantissa` times two to the `exponent`. -/
structure Ceiling where
  mantissa : Nat
  exponent : Int
  short : mantissa < 2 ^ 24
  low : -149 ≤ exponent
  high : exponent ≤ 100

namespace Ceiling

variable {c : Ceiling}

/-- The ceiling in units of two to the `e`. -/
def units (c : Ceiling) (e : Int) : Nat :=
  c.mantissa * 2 ^ (c.exponent - e).toNat

/-- Smaller units make a greater number. -/
theorem units_mul (c : Ceiling) {small : Int} {n : Nat} (step : e = small + n)
    (order : e ≤ c.exponent) : c.units e * 2 ^ n = c.units small := by
  rw [units, units, Nat.mul_assoc, ← Nat.pow_add]
  congr 2
  omega

/-- What is below the ceiling is so in smaller units. -/
theorem mul_pow_le {small : Int} {n : Nat} (below : m ≤ c.units e) (step : e = small + n)
    (order : e ≤ c.exponent) : m * 2 ^ n ≤ c.units small := by
  rw [← c.units_mul step order]
  exact Nat.mul_le_mul_right _ below

/-- What is below a ceiling in its own units is so in smaller units. -/
theorem units_le_units {c c' : Ceiling} (order : c.exponent ≤ c'.exponent)
    (small : e ≤ c.exponent) (greater : c.mantissa ≤ c'.units c.exponent) :
    c.units e ≤ c'.units e :=
  mul_pow_le greater (by omega) order

/-- What is below the ceiling has at most its bits. -/
theorem log2_lt {bits : Nat} (short : c.mantissa < 2 ^ bits) (below : m ≤ c.units e)
    (some : m ≠ 0) : m.log2 < bits + (c.exponent - e).toNat := by
  rw [Nat.log2_lt some, Nat.pow_add]
  exact Nat.lt_of_le_of_lt below (Nat.mul_lt_mul_of_pos_right short (Nat.two_pow_pos _))

/-- The exponent to which a number below the ceiling is rounded is not above that of the
ceiling. -/
theorem targetExponent_le (order : e ≤ c.exponent) (below : m ≤ c.units e) :
    Format.binary32.targetExponent (totalExponent m e) ≤ c.exponent := by
  have low := c.low
  have bits : m.log2 < 24 + (c.exponent - e).toNat := by
    by_cases zero : m = 0
    · rw [zero, Nat.log2_zero]
      omega
    · exact log2_lt c.short below zero
  simp only [Format.targetExponent, totalExponent, Format.mantissaBits, Format.minExponent]
  omega

/-- A mantissa that fits below the ceiling still does when it is brought to the exponent at which it
is rounded. -/
theorem fits_shiftToTargetExponent (order : e ≤ c.exponent) (below : m ≤ c.units e)
    (fits : Fits (ExtendedMantissa.ofMantissaAndAccuracy m accuracy) (c.units e)) :
    let shifted := shiftToTargetExponent Format.binary32 m e accuracy
    shifted.2 ≤ c.exponent ∧ -149 ≤ shifted.2 ∧ Fits shifted.1 (c.units shifted.2) := by
  have target := targetExponent_le order below
  have least : -149 ≤ Format.binary32.targetExponent (totalExponent m e) := Int.le_max_right _ _
  simp only [shiftToTargetExponent, shiftToExponent]
  generalize Format.binary32.targetExponent (totalExponent m e) = t at *
  have reached : e + (t - e).toNat ≤ c.exponent := by omega
  refine ⟨reached, by omega, Fits.shiftRight ?_⟩
  rwa [units_mul c rfl reached]

end Ceiling

/-- Whether a number is neither negative nor greater than the ceiling. -/
inductive AtMost (c : Ceiling) : UnpackedFloat → Prop
  | zero : AtMost c (.zero .positive)
  | finite {m : Nat} {e : Int} (positive : 0 < m) (least : -149 ≤ e) (order : e ≤ c.exponent)
      (below : m ≤ c.units e) : AtMost c (.finite .positive m e positive)

variable {c : Ceiling}

/-- Rounding does not pass a ceiling. -/
theorem AtMost.round (order : e ≤ c.exponent) (below : m ≤ c.units e)
    (fits : Fits (ExtendedMantissa.ofMantissaAndAccuracy m accuracy) (c.units e)) :
    AtMost c (roundWithAccuracy Format.binary32 .positive m e accuracy) := by
  have first := Ceiling.fits_shiftToTargetExponent order below fits
  rw [roundWithAccuracy]
  generalize shiftToTargetExponent Format.binary32 m e accuracy = shifted at first
  obtain ⟨order, -, fits⟩ := first
  -- The rounded mantissa may need one bit more than there are, so it is shifted once again.
  have second := Ceiling.fits_shiftToTargetExponent order fits.roundedMantissa_le
    (fits_exact fits.roundedMantissa_le)
  dsimp only at second ⊢
  generalize shiftToTargetExponent Format.binary32 _ _ _ = rounded at second
  obtain ⟨order, least, fits⟩ := second
  split
  · exact .zero
  · refine .finite _ least order ?_
    obtain below | ⟨same, -, -⟩ := fits
    · exact Nat.le_of_lt below
    · exact Nat.le_of_eq same

/-! ### Packing -/

/-- The leading bit counts for two to the twenty-third. -/
theorem toNat_leadingBit (mantissa : BitVec 23) :
    (1#1 ++ mantissa).toNat = 2 ^ 23 + mantissa.toNat := by
  rw [BitVec.toNat_append, ← Nat.shiftLeft_add_eq_or_of_lt mantissa.isLt]
  rfl

/-- What a packed number with a leading bit is. -/
theorem unpack_normal (mantissa : BitVec 23) {exponent : Nat} (positive : 0 < exponent)
    (finite : exponent < 255) :
    unpack Format.binary32
        (packComponents Format.binary32 .positive (BitVec.ofNat 8 exponent) mantissa) =
      .finite .positive (1#1 ++ mantissa).toNat (exponent - 150)
        (by rw [toNat_leadingBit]; omega) := by
  have number : (BitVec.ofNat 8 exponent).toNat = exponent := by
    rw [BitVec.toNat_ofNat]
    omega
  have other {k : Nat} (byte : k < 256) (differ : exponent ≠ k) :
      ¬BitVec.ofNat 8 exponent = BitVec.ofNat 8 k := fun same => by
    have numbers := congrArg BitVec.toNat same
    rw [number, BitVec.toNat_ofNat] at numbers
    omega
  have notLast : ¬BitVec.ofNat 8 exponent = -1#8 := other (k := 255) (by decide) (by omega)
  have notFirst : ¬BitVec.ofNat 8 exponent = 0#8 := other (by decide) (by omega)
  simp only [unpack, unpackExponent_packComponents, unpackMantissa_packComponents,
    unpackSign_packComponents, if_neg notLast, if_neg notFirst, number]
  rfl

/-- What a packed number without a leading bit is. -/
theorem unpack_subnormal (mantissa : BitVec 23) :
    unpack Format.binary32 (packComponents Format.binary32 .positive 0#8 mantissa) =
      if h : mantissa = 0#23 then .zero .positive
      else .finite .positive mantissa.toNat (-149)
        (by simpa [BitVec.toNat_pos, BitVec.pos_iff_ne_zero]) := by
  simp only [unpack, unpackExponent_packComponents, unpackMantissa_packComponents,
    unpackSign_packComponents]
  rfl

/-- How a number that is not too great is packed. -/
theorem pack_finite (sign : Sign) (positive : 0 < m) (high : e ≤ 100) :
    pack Format.binary32 (.finite sign m e positive) =
      if m.log2 + 1 = 24 then
        packComponents Format.binary32 sign (BitVec.ofNat 8 (e + 127 + 23).toNat)
          (BitVec.ofNat 23 m)
      else packComponents Format.binary32 sign 0#8 (BitVec.ofNat 23 m) := by
  have finite : ¬2 ^ 8 ≤ (e + 127 + 23).toNat + 1 := by omega
  exact if_neg finite

/-- A number that is packed and unpacked again is not greater than before. -/
theorem AtMost.unpack_pack {f : UnpackedFloat} (most : AtMost c f) :
    AtMost c (unpack Format.binary32 (pack Format.binary32 f)) := by
  cases most with
  | zero => exact .zero
  | @finite m e positive least order below =>
    have high := c.high
    rw [pack_finite _ positive (by omega)]
    split
    next normal =>
      obtain ⟨lead, short⟩ := (Nat.log2_eq_iff (Nat.ne_of_gt positive)).mp (Nat.succ.inj normal)
      have mantissa : (1#1 ++ BitVec.ofNat 23 m).toNat = m := by
        rw [toNat_leadingBit, BitVec.toNat_ofNat]
        omega
      have exponent : ((e + 127 + 23).toNat : Int) - 150 = e := by omega
      rw [unpack_normal _ (by omega) (by omega)]
      simp only [mantissa, exponent]
      exact .finite positive least order below
    next =>
      rw [unpack_subnormal]
      split
      · exact .zero
      · -- Without a leading bit the exponent is the least one, which makes the number smaller.
        refine .finite _ (Int.le_refl _) c.low ?_
        rw [BitVec.toNat_ofNat]
        refine Nat.le_trans (Nat.mod_le _ _) (Nat.le_trans below ?_)
        exact Nat.mul_le_mul_left _ (Nat.pow_le_pow_right (by decide) (by omega))

/-! ### Arithmetic -/

/-- A greater ceiling is a ceiling as well. -/
theorem AtMost.mono {c' : Ceiling} {f : UnpackedFloat} (most : AtMost c f)
    (order : c.exponent ≤ c'.exponent) (greater : c.mantissa ≤ c'.units c.exponent) :
    AtMost c' f := by
  cases most with
  | zero => exact .zero
  | @finite m e positive least order' below =>
    refine .finite positive least (by omega) (Nat.le_trans below ?_)
    exact Ceiling.units_le_units order order' greater

/-- A whole number as a ceiling. -/
def Ceiling.whole (n : Nat) (short : n < 2 ^ 24) : Ceiling where
  mantissa := n
  exponent := 0
  short := short
  low := by decide
  high := by decide

/-- A mantissa without bits to be cut off is rounded below the ceiling. -/
theorem AtMost.round_exact (order : e ≤ c.exponent) (below : m ≤ c.units e) :
    AtMost c (UnpackedFloat.round Format.binary32 .positive m e) := by
  rw [UnpackedFloat.round]
  generalize Format.binary32.targetExponent (totalExponent m e) = t
  simp only [decreaseExponent, Nat.shiftLeft_eq]
  have scaled : m * 2 ^ (e - t).toNat ≤ c.units (e - (e - t).toNat) :=
    Ceiling.mul_pow_le below (Int.sub_add_cancel e _).symm order
  exact AtMost.round (by omega) scaled (fits_exact scaled)

/-- A positive whole number of units is normalized by rounding it. -/
theorem normalize_natCast (spec : Format) (positive : 0 < m) (e : Int) (sign : Sign) :
    UnpackedFloat.normalize spec m e sign = UnpackedFloat.round spec .positive m e := by
  have great : compare (m : Int) 0 = .gt := Int.compare_eq_gt.mpr (by omega)
  rw [UnpackedFloat.normalize, great]
  rfl

/-- A sum of numbers below two whole numbers is below their sum. -/
theorem AtMost.add {i j : Nat} {hi : i < 2 ^ 24} {hj : j < 2 ^ 24} {hij : i + j < 2 ^ 24}
    {f g : UnpackedFloat} (first : AtMost (Ceiling.whole i hi) f)
    (second : AtMost (Ceiling.whole j hj) g) :
    AtMost (Ceiling.whole (i + j) hij) (UnpackedFloat.add Format.binary32 f g) := by
  cases first with
  | zero =>
    cases second with
    | zero => exact .zero
    | finite positive least order below =>
      exact (AtMost.finite positive least order below).mono (Int.le_refl _)
        (show j ≤ (i + j) * 1 by omega)
  | @finite m e positive least order below =>
    cases second with
    | zero =>
      exact (AtMost.finite positive least order below).mono (Int.le_refl _)
        (show i ≤ (i + j) * 1 by omega)
    | @finite m' e' positive' least' order' below' =>
      -- Both are brought to the smaller of the two exponents.
      simp only [UnpackedFloat.add, decreaseExponent, Nat.shiftLeft_eq, Sign.apply]
      generalize small : min e e' = s
      have left : m * 2 ^ (e - s).toNat ≤ (Ceiling.whole i hi).units s :=
        Ceiling.mul_pow_le below (by omega) order
      have right : m' * 2 ^ (e' - s).toNat ≤ (Ceiling.whole j hj).units s :=
        Ceiling.mul_pow_le below' (by omega) order'
      have sum : m * 2 ^ (e - s).toNat + m' * 2 ^ (e' - s).toNat ≤
          (Ceiling.whole (i + j) hij).units s := by
        rw [Ceiling.units, Ceiling.whole, Nat.add_mul]
        exact Nat.add_le_add left right
      have some : 0 < m * 2 ^ (e - s).toNat := Nat.mul_pos positive (Nat.two_pow_pos _)
      rw [← Int.natCast_add, normalize_natCast _ (Nat.add_pos_left some _)]
      exact AtMost.round_exact (show s ≤ 0 by change e ≤ 0 at order; omega) sum

/-- A product of numbers below two ceilings is below whatever is above the product of these. -/
theorem AtMost.mul {c₁ c₂ : Ceiling} {f g : UnpackedFloat} (first : AtMost c₁ f)
    (second : AtMost c₂ g) (order : c₁.exponent + c₂.exponent ≤ c.exponent)
    (above : c₁.mantissa * c₂.mantissa ≤ c.units (c₁.exponent + c₂.exponent)) :
    AtMost c (UnpackedFloat.mul Format.binary32 f g) := by
  cases first with
  | zero =>
    cases second with
    | zero => exact .zero
    | finite => exact .zero
  | @finite m e positive least order₁ below =>
    cases second with
    | zero => exact .zero
    | @finite m' e' positive' least' order₂ below' =>
      have product : m * m' ≤ c.units (e + e') := by
        rw [← c.units_mul (e := c₁.exponent + c₂.exponent)
          (n := (c₁.exponent - e).toNat + (c₂.exponent - e').toNat) (by omega) order]
        calc
          m * m' ≤ c₁.units e * c₂.units e' := Nat.mul_le_mul below below'
          _ = c₁.mantissa * c₂.mantissa *
              2 ^ ((c₁.exponent - e).toNat + (c₂.exponent - e').toNat) := by
            rw [Ceiling.units, Ceiling.units, Nat.pow_add, Nat.mul_mul_mul_comm]
          _ ≤ _ := Nat.mul_le_mul_right _ above
      exact AtMost.round (by omega) product (fits_exact product)

/-- A third of a number below three is below one. -/
theorem AtMost.third {f : UnpackedFloat} (most : AtMost (Ceiling.whole 3 (by decide)) f) :
    AtMost (Ceiling.whole 1 (by decide))
      (UnpackedFloat.div Format.binary32 f
        (.finite .positive (3 * 2 ^ 22) (-22) (by decide))) := by
  cases most with
  | zero => exact .zero
  | @finite m e positive least order below =>
    change e ≤ 0 at order
    have bits : m.log2 < 2 + (0 - e).toNat :=
      Ceiling.log2_lt (show 3 < 2 ^ 2 by decide) below (Nat.ne_of_gt positive)
    have target : Format.binary32.targetExponent
        (totalExponent m e - totalExponent (3 * 2 ^ 22) (-22)) ≤ 0 := by
      have denominator : totalExponent (3 * 2 ^ 22) (-22) = 2 := by decide
      rw [denominator]
      simp only [Format.targetExponent, totalExponent, Format.mantissaBits, Format.minExponent]
      omega
    simp only [UnpackedFloat.div, divCore, Nat.shiftLeft_eq]
    generalize Format.binary32.targetExponent _ = t at target
    generalize small : min (e - -22) t = s
    have dividend : m * 2 ^ (e - -22 - s).toNat ≤
        3 * 2 ^ 22 * (Ceiling.whole 1 (by decide)).units s := by
      calc
        m * 2 ^ (e - -22 - s).toNat ≤ 3 * 2 ^ (0 - e).toNat * 2 ^ (e - -22 - s).toNat :=
          Nat.mul_le_mul_right _ below
        _ = 3 * 2 ^ 22 * (1 * 2 ^ (0 - s).toNat) := by
          rw [Nat.mul_assoc, ← Nat.pow_add, Nat.one_mul, Nat.mul_assoc, ← Nat.pow_add]
          congr 2
          omega
    generalize m * 2 ^ (e - -22 - s).toNat = a at dividend
    have quotient : a / (3 * 2 ^ 22) ≤ (Ceiling.whole 1 (by decide)).units s :=
      Nat.div_le_of_le_mul dividend
    refine AtMost.round (show s ≤ 0 by omega) quotient ?_
    rcases Nat.lt_or_eq_of_le quotient with less | same
    · exact fits_of_lt less _
    · have rest : a % (3 * 2 ^ 22) = 0 := by omega
      rw [rest]
      exact fits_exact quotient

/-- A whole number of at most 24 bits is at most itself in single precision. -/
theorem atMost_ofNat {n : Nat} (short : n < 2 ^ 24) :
    AtMost (Ceiling.whole n short) (UnpackedFloat.ofNat Format.binary32 n) := by
  rcases Nat.eq_zero_or_pos n with rfl | positive
  · exact .zero
  · rw [UnpackedFloat.ofNat, UnpackedFloat.ofInt, normalize_natCast _ positive]
    exact AtMost.round_exact (Int.le_refl _) (Nat.le_of_eq (Nat.mul_one n).symm)

/-- Every halving halves the mantissa. -/
theorem mantissa_shiftRight (em : ExtendedMantissa) (n : Nat) :
    (em >>> n).mantissa = em.mantissa / 2 ^ n := by
  change (Nat.repeat ExtendedMantissa.shiftRightOne n em).mantissa = _
  induction n with
  | zero => exact (Nat.div_one _).symm
  | succ n ih =>
    change (Nat.repeat ExtendedMantissa.shiftRightOne n em).mantissa / 2 = _
    rw [ih, Nat.div_div_eq_div_mul, Nat.pow_succ]

/-- A byte and the greatest fraction of eight bits as a ceiling. -/
def Ceiling.cutTo (k : Nat) (byte : k < 256) : Ceiling where
  mantissa := k * 256 + 255
  exponent := -8
  short := by omega
  low := by decide
  high := by decide

/-- A number below a byte and the greatest fraction of eight bits is cut to that byte or less. -/
theorem AtMost.toUInt8_le {k : Nat} {byte : k < 256} {f : UnpackedFloat}
    (most : AtMost (Ceiling.cutTo k byte) f) : f.toUInt8.toNat ≤ k := by
  cases most with
  | zero => exact Nat.zero_le k
  | @finite m e positive least order below =>
    change e ≤ -8 at order
    have less : m < 2 ^ (0 - e).toNat * (k + 1) := by
      have exponent : (0 - e).toNat = 8 + (-8 - e).toNat := by omega
      rw [exponent, Nat.pow_add, Nat.mul_right_comm]
      refine Nat.lt_of_le_of_lt below ?_
      exact Nat.mul_lt_mul_of_pos_right (show k * 256 + 255 < 2 ^ 8 * (k + 1) by omega)
        (Nat.two_pow_pos _)
    have whole : e.toNat = 0 := by omega
    have cut : (roundToInt .positive m e).toNat = m / 2 ^ (0 - e).toNat := by
      simp only [roundToInt, decreaseExponent, shiftToExponent, Int.sub_zero, whole,
        Nat.shiftLeft_zero, mantissa_shiftRight, Sign.apply, Int.toNat_natCast, Int.natCast_zero]
      rfl
    have small : m / 2 ^ (0 - e).toNat < k + 1 := Nat.div_lt_of_lt_mul less
    have inside : (roundToInt .positive m e).toNat < UInt8.size := by
      rw [cut]
      exact Nat.lt_of_lt_of_le small byte
    rw [UnpackedFloat.toUInt8, toInt, UInt8.ofNatClamp, dif_pos inside]
    change (roundToInt .positive m e).toNat ≤ k
    rw [cut]
    exact Nat.le_of_lt_succ small

end Chip8.Single
