import Polyphony.Number.Remainder
import Polyphony.Proofs.Number.Ranges

namespace Polyphony.Number

/-!
# Operands of finite results

What is not finite makes everything that it enters not finite: a finite sum,
difference, product or remainder has finite operands.  Where the operands are
finite, a finite result is the exact one, rounded.
-/

open Float.Model (Format UnpackedFloat)
open Float.Model.UnpackedFloat
open FloatingPoint (spec unpack)

/-! ## Unpacked operands -/

section Unpacked

variable {format : Format} {first second : UnpackedFloat}

theorem isFinite_of_stored
    {number : UnpackedFloat}
    (finite : (stored format number).isFinite = true) :
    number.isFinite = true := by
  cases number with
  | notANumber => simp [isFinite] at finite
  | infinity sign => simp [isFinite] at finite
  | zero sign => rfl
  | finite sign mantissa exponent pos => rfl

theorem isFinite_of_add
    (finite : (add format first second).isFinite = true) :
    first.isFinite = true ∧ second.isFinite = true := by
  cases first with
  | notANumber => exact absurd finite Bool.false_ne_true
  | infinity sign =>
      cases second with
      | infinity otherSign =>
          cases sign <;> cases otherSign <;>
            exact absurd finite Bool.false_ne_true
      | _ => exact absurd finite Bool.false_ne_true
  | _ =>
      cases second with
      | notANumber => exact absurd finite Bool.false_ne_true
      | infinity otherSign => exact absurd finite Bool.false_ne_true
      | _ => exact ⟨rfl, rfl⟩

theorem isFinite_of_sub
    (finite : (sub format first second).isFinite = true) :
    first.isFinite = true ∧ second.isFinite = true := by
  cases first with
  | notANumber => exact absurd finite Bool.false_ne_true
  | infinity sign =>
      cases second with
      | infinity otherSign =>
          cases sign <;> cases otherSign <;>
            exact absurd finite Bool.false_ne_true
      | _ => exact absurd finite Bool.false_ne_true
  | _ =>
      cases second with
      | notANumber => exact absurd finite Bool.false_ne_true
      | infinity otherSign => exact absurd finite Bool.false_ne_true
      | _ => exact ⟨rfl, rfl⟩

theorem isFinite_of_mul
    (finite : (mul format first second).isFinite = true) :
    first.isFinite = true ∧ second.isFinite = true := by
  cases first with
  | notANumber => exact absurd finite Bool.false_ne_true
  | infinity sign =>
      cases second <;> exact absurd finite Bool.false_ne_true
  | _ =>
      cases second with
      | notANumber => exact absurd finite Bool.false_ne_true
      | infinity otherSign => exact absurd finite Bool.false_ne_true
      | _ => exact ⟨rfl, rfl⟩

/-- What is stored as a finite number is stored as it is. -/
theorem eq_of_stored_denotes
    (wide : 2 ≤ format.exponentBits)
    {exact other : ℚ}
    {number : UnpackedFloat}
    (denotes : Denotes format exact number)
    (isStored : Denotes format other (stored format number)) :
    other = exact := by
  rcases stored_eq wide denotes with
    ⟨-, same⟩ | ⟨-, isInfinity⟩ | ⟨-, isInfinity⟩
  · rw [same] at isStored
    exact isStored.unique denotes
  · rw [isInfinity] at isStored
    cases isStored
  · rw [isInfinity] at isStored
    cases isStored

end Unpacked

/-! ## Machine numbers -/

section Machine

variable {Value : Type} [Add Value] [Sub Value] [Mul Value] [Div Value]
  [LT Value] [LE Value] [FloatingPoint Value]
  {first second : Value} {exact other result : ℚ}

theorem Is.operands_of_add (isSum : Is (first + second) result) :
    (∃ exact, Is first exact) ∧ ∃ other, Is second other := by
  have finite := Denotes.isFinite isSum
  rw [FloatingPoint.unpack_add] at finite
  exact (isFinite_of_add (isFinite_of_stored finite)).imp exists_is exists_is

theorem Is.operands_of_sub (isDifference : Is (first - second) result) :
    (∃ exact, Is first exact) ∧ ∃ other, Is second other := by
  have finite := Denotes.isFinite isDifference
  rw [FloatingPoint.unpack_sub] at finite
  exact (isFinite_of_sub (isFinite_of_stored finite)).imp exists_is exists_is

theorem Is.operands_of_mul (isProduct : Is (first * second) result) :
    (∃ exact, Is first exact) ∧ ∃ other, Is second other := by
  have finite := Denotes.isFinite isProduct
  rw [FloatingPoint.unpack_mul] at finite
  exact (isFinite_of_mul (isFinite_of_stored finite)).imp exists_is exists_is

theorem Is.eq_of_mul
    (isFirst : Is first exact)
    (isSecond : Is second other)
    (isProduct : Is (first * second) result) :
    result = rounded (spec Value) (exact * other) := by
  unfold Is at isProduct
  rw [FloatingPoint.unpack_mul] at isProduct
  exact eq_of_stored_denotes FloatingPoint.wide
    (Denotes.mul isFirst isSecond) isProduct

/-- A sum that is no greater than a number of the format is finite. -/
theorem Is.add_within
    {bound : ℚ}
    (isFirst : Is first exact)
    (isSecond : Is second other)
    (representable : Representable (spec Value) bound)
    (inRange : bound < overflow (spec Value))
    (within : |exact + other| ≤ bound) :
    Is (first + second) (rounded (spec Value) (exact + other)) := by
  unfold Is
  rw [FloatingPoint.unpack_add]
  exact stored_denotes_within FloatingPoint.wide
    (Denotes.add isFirst isSecond) representable inRange within

/-- A difference that is no greater than a number of the format is finite. -/
theorem Is.sub_within
    {bound : ℚ}
    (isFirst : Is first exact)
    (isSecond : Is second other)
    (representable : Representable (spec Value) bound)
    (inRange : bound < overflow (spec Value))
    (within : |exact - other| ≤ bound) :
    Is (first - second) (rounded (spec Value) (exact - other)) := by
  unfold Is
  rw [FloatingPoint.unpack_sub]
  exact stored_denotes_within FloatingPoint.wide
    (Denotes.sub isFirst isSecond) representable inRange within

/-- A product that is no greater than a number of the format is finite. -/
theorem Is.mul_within
    {bound : ℚ}
    (isFirst : Is first exact)
    (isSecond : Is second other)
    (representable : Representable (spec Value) bound)
    (inRange : bound < overflow (spec Value))
    (within : |exact * other| ≤ bound) :
    Is (first * second) (rounded (spec Value) (exact * other)) := by
  unfold Is
  rw [FloatingPoint.unpack_mul]
  exact stored_denotes_within FloatingPoint.wide
    (Denotes.mul isFirst isSecond) representable inRange within

end Machine

/-! ## Remainders -/

theorem unpack_remainder (value divisor : Float) :
    unpack (remainder value divisor) =
      stored (spec Float) (unpackedRemainder (unpack value) (unpack divisor)) :=
  rfl

theorem Is.operands_of_remainder
    {value divisor : Float}
    {result : ℚ}
    (isRemainder : Is (remainder value divisor) result) :
    (∃ exact, Is value exact) ∧ ¬ Is divisor 0 := by
  have finite := Denotes.isFinite isRemainder
  rw [unpack_remainder] at finite
  have unpackedFinite := isFinite_of_stored finite
  constructor
  · cases parts : unpack value with
    | notANumber =>
        rw [parts] at unpackedFinite
        exact absurd unpackedFinite Bool.false_ne_true
    | infinity sign =>
        rw [parts] at unpackedFinite
        exact absurd unpackedFinite Bool.false_ne_true
    | zero sign => exact exists_is (by rw [parts]; rfl)
    | finite sign mantissa exponent pos => exact exists_is (by rw [parts]; rfl)
  · intro isZero
    obtain ⟨sign, divisorParts⟩ := zero_parts isZero
    rw [divisorParts] at unpackedFinite
    cases parts : unpack value <;>
      rw [parts] at unpackedFinite <;>
      exact absurd unpackedFinite Bool.false_ne_true

theorem positive_of_signed_nonneg
    {sign : Sign}
    {mantissa : Nat}
    {exponent : ℤ}
    (pos : 0 < mantissa)
    (nonneg : (0 : ℚ) ≤ signed sign (mantissa * 2 ^ exponent)) :
    sign = .positive := by
  have magnitude : (0 : ℚ) < mantissa * 2 ^ exponent := by positivity
  cases sign with
  | negative =>
      rw [signed_negative] at nonneg
      exact absurd nonneg (not_le.mpr (neg_neg_of_pos magnitude))
  | positive => rfl

/--
The remainder is taken of mantissas on one grid.  It has no more digits than the
one of the two numbers whose grid that is, so it is exact.
-/
theorem unpackedRemainder_denotes
    {mantissa divisor : Nat}
    {exponent place : ℤ}
    (canonical : CanonicalForm (spec Float) mantissa exponent)
    (divisorCanonical : CanonicalForm (spec Float) divisor place)
    (pos : 0 < mantissa)
    (divisorPos : 0 < divisor) :
    ∃ (quotient : Nat) (rest : ℚ),
      rest = mantissa * 2 ^ exponent - quotient * (divisor * 2 ^ place) ∧
        0 ≤ rest ∧
        rest < divisor * 2 ^ place ∧
        Denotes (spec Float) rest
          (unpackedRemainder (.finite .positive mantissa exponent pos)
            (.finite .positive divisor place divisorPos)) := by
  have sameValue := shiftLeft_of_finer mantissa (min_le_left exponent place)
  have sameDivisor := shiftLeft_of_finer divisor (min_le_right exponent place)
  have fine := le_min canonical.fine divisorCanonical.fine
  have isCommon := min_choice exponent place
  simp only [unpackedRemainder]
  generalize min exponent place = common
    at sameValue sameDivisor fine isCommon ⊢
  generalize isScaled : mantissa <<< (exponent - common).toNat = scaled
    at sameValue ⊢
  generalize isScaledDivisor : divisor <<< (place - common).toNat = scaledDivisor
    at sameDivisor ⊢
  have scaledDivisorPos : 0 < scaledDivisor := by
    rw [← isScaledDivisor, Nat.shiftLeft_eq]
    positivity
  have remainingLess : scaled % scaledDivisor < scaledDivisor :=
    Nat.mod_lt _ scaledDivisorPos
  have fits : scaled % scaledDivisor ≤ 2 ^ (spec Float).mantissaBits := by
    rcases isCommon with same | same
    · rw [same, sub_self, Int.toNat_zero, Nat.shiftLeft_zero] at isScaled
      rw [← isScaled]
      exact (Nat.mod_le _ _).trans canonical.fits.le
    · rw [same, sub_self, Int.toNat_zero, Nat.shiftLeft_zero] at isScaledDivisor
      rw [← isScaledDivisor] at remainingLess ⊢
      exact (remainingLess.trans divisorCanonical.fits).le
  have division :
      ((scaled % scaledDivisor : ℕ) : ℚ) =
        scaled - (scaled / scaledDivisor : ℕ) * scaledDivisor := by
    rw [eq_sub_iff_add_eq]
    exact_mod_cast Nat.mod_add_div' scaled scaledDivisor
  have isRest :
      ((scaled % scaledDivisor : ℕ) * 2 ^ common : ℚ) =
        mantissa * 2 ^ exponent -
          (scaled / scaledDivisor : ℕ) * (divisor * 2 ^ place) := by
    rw [division, ← sameValue, ← sameDivisor]
    ring
  refine ⟨scaled / scaledDivisor, _, isRest, by positivity, ?_, ?_⟩
  · rw [← sameDivisor]
    exact mul_lt_mul_of_pos_right (by exact_mod_cast remainingLess)
      (by positivity)
  · generalize scaled % scaledDivisor = remaining at fits
    split
    · rename_i isZero
      rw [isZero, Nat.cast_zero, zero_mul]
      exact .zero .positive
    · rename_i notZero
      have representable :
          Representable (spec Float) (remaining * 2 ^ common) :=
        ⟨remaining, common, by
          rw [Nat.abs_cast]
          exact_mod_cast fits, fine, by rw [Int.cast_natCast]⟩
      have denotes :
          Denotes (spec Float) (rounded (spec Float) (remaining * 2 ^ common))
            (UnpackedFloat.round (spec Float) .positive remaining common) :=
        round_denotes notZero .positive common
      rwa [representable.rounded_eq] at denotes

/-- The remainder of a number that is not negative is exact. -/
theorem Is.remainder
    {value divisor : Float}
    {exact other : ℚ}
    (isValue : Is value exact)
    (isDivisor : Is divisor other)
    (nonneg : 0 ≤ exact)
    (positive : 0 < other) :
    ∃ (quotient : Nat) (rest : ℚ),
      rest = exact - quotient * other ∧
        0 ≤ rest ∧ rest < other ∧ Is (remainder value divisor) rest := by
  have divisorSmall := isDivisor.abs_lt_overflow
  unfold Is at isValue isDivisor ⊢
  rw [unpack_remainder]
  generalize unpack value = number at isValue ⊢
  generalize unpack divisor = divisorNumber at isDivisor ⊢
  cases isDivisor with
  | zero sign => exact absurd positive (lt_irrefl 0)
  | @finite divisorMantissa place divisorCanonical divisorSign divisorPos =>
      cases isValue with
      | zero sign =>
          refine ⟨0, 0, by simp, le_refl 0, positive, ?_⟩
          change Denotes (spec Float) 0 (stored (spec Float) (.zero sign))
          rw [stored_zero]
          exact .zero sign
      | @finite mantissa exponent canonical sign pos =>
          have isPositive := positive_of_signed_nonneg pos nonneg
          have divisorIsPositive :=
            positive_of_signed_nonneg divisorPos positive.le
          subst sign divisorSign
          obtain ⟨quotient, rest, isRest, restNonneg, restSmall, denotes⟩ :=
            unpackedRemainder_denotes canonical divisorCanonical pos divisorPos
          refine ⟨quotient, rest, isRest, restNonneg, restSmall, ?_⟩
          have small : |rest| < overflow (spec Float) := by
            rw [abs_of_nonneg restNonneg]
            exact restSmall.trans (lt_of_abs_lt divisorSmall)
          rwa [stored_of_abs_eq FloatingPoint.wide denotes small]

/-! ## Small numbers that are added to great ones -/

/-- What is less than half a step of the grid is lost in a sum. -/
theorem rounded_add_of_lt
    {format : Format}
    {great small : ℚ}
    {exponent steps : ℤ}
    (onGrid : great = steps * 2 ^ (exponent + 1 - format.mantissaBits))
    (normal : format.minExponent ≤ exponent + 1 - format.mantissaBits)
    (above : 2 ^ exponent ≤ great)
    (below : great + small < 2 ^ (exponent + 1))
    (nonneg : 0 ≤ small)
    (less : small < 2 ^ (exponent + 1 - format.mantissaBits) / 2) :
    rounded format (great + small) = great := by
  have positive : (0 : ℚ) < 2 ^ exponent := by positivity
  have sumPositive : 0 < great + small := by linarith
  have base : 1 < 2 := by decide
  have log : Int.log 2 (great + small) = exponent := by
    have lessLog :=
      (Int.lt_zpow_iff_log_lt base sumPositive).mp (by exact_mod_cast below)
    have leLog :=
      (Int.zpow_le_iff_le_log base sumPositive).mp
        (by exact_mod_cast le_trans above (le_add_of_nonneg_right nonneg))
    omega
  have grid :
      gridExponent format (great + small) =
        exponent + 1 - format.mantissaBits := by
    rw [gridExponent, log, max_eq_left normal]
  rw [rounded_of_nonneg sumPositive.le, roundedMagnitude, grid]
  generalize exponent + 1 - (format.mantissaBits : ℤ) = place
    at onGrid less ⊢
  have stepPositive : (0 : ℚ) < 2 ^ place := by positivity
  have division :
      (great + small) / 2 ^ place = steps + small / 2 ^ place := by
    rw [onGrid, add_div, mul_div_cancel_right₀ _ stepPositive.ne']
  have partNonneg : 0 ≤ small / 2 ^ place := by positivity
  have partSmall : small / 2 ^ place < 1 / 2 := by
    rw [div_lt_iff₀ stepPositive]
    linarith
  have floor : ⌊(steps + small / 2 ^ place : ℚ)⌋ = steps := by
    rw [Int.floor_eq_iff]
    constructor <;> linarith
  have nearest : nearestEven (steps + small / 2 ^ place) = steps := by
    unfold nearestEven
    rw [floor, add_sub_cancel_left, if_pos partSmall]
  rw [division, nearest, onGrid]

section Greatest

variable {format : Format}

theorem overflow_eq_steps (format : Format) :
    overflow format = 2 ^ format.mantissaBits * 2 ^ maxExponent format := by
  rw [overflow, ← zpow_natCast (2 : ℚ) format.mantissaBits,
    ← zpow_add₀ (by decide)]
  congr 1
  unfold maxExponent Format.mantissaBits
  push_cast
  ring

/-- The greatest finite number of a format, one step from its overflow. -/
def greatest (format : Format) : ℚ :=
  (2 ^ format.mantissaBits - 1) * 2 ^ maxExponent format

theorem greatest_add_step (format : Format) :
    greatest format + 2 ^ maxExponent format = overflow format := by
  rw [greatest, overflow_eq_steps]
  ring

theorem greatest_lt_overflow (format : Format) :
    greatest format < overflow format := by
  rw [← greatest_add_step]
  exact lt_add_of_pos_right _ (by positivity)

theorem two_pow_bias_le_greatest (format : Format) :
    2 ^ (format.exponentBias : ℤ) ≤ greatest format := by
  have some : (1 : ℚ) ≤ 2 ^ format.mantissaBitsWithoutImplicit :=
    one_le_pow₀ (by decide)
  have double : (2 ^ format.mantissaBits : ℚ) =
      2 * 2 ^ format.mantissaBitsWithoutImplicit := by
    exact_mod_cast two_pow_mantissaBits format
  have sameExponent :
      (format.exponentBias : ℤ) =
        format.mantissaBitsWithoutImplicit + maxExponent format := by
    unfold maxExponent
    ring
  rw [sameExponent, zpow_add₀ (by decide), zpow_natCast, greatest, double]
  exact mul_le_mul_of_nonneg_right (by linarith) (by positivity)

theorem Denotes.le_greatest
    (wide : 2 ≤ format.exponentBits)
    {exact : ℚ}
    {number : UnpackedFloat}
    (denotes : Denotes format exact number)
    (inRange : exact < overflow format) :
    exact ≤ greatest format := by
  have someGreat : 0 ≤ greatest format :=
    le_trans (by positivity) (two_pow_bias_le_greatest format)
  cases denotes with
  | zero sign => exact someGreat
  | @finite mantissa exponent canonical sign pos =>
      cases sign with
      | negative =>
          rw [signed_negative]
          exact le_trans (neg_nonpos.mpr (by positivity)) someGreat
      | positive =>
          rw [signed_positive] at inRange ⊢
          have small : exponent ≤ maxExponent format := by
            by_contra beyond
            exact absurd inRange
              (not_lt.mpr (canonical.overflow_le wide (not_le.mp beyond)))
          have atMost : (mantissa : ℚ) ≤ 2 ^ format.mantissaBits - 1 := by
            rw [le_sub_iff_add_le]
            exact_mod_cast canonical.fits
          exact mul_le_mul atMost
            (zpow_le_zpow_right₀ (by decide) small) (by positivity)
            (le_trans (by positivity) atMost)

/-- What is added to the greatest number is lost if it is small. -/
theorem rounded_greatest_add
    (wide : 2 ≤ format.exponentBits)
    {small : ℚ}
    (nonneg : 0 ≤ small)
    (less : small < 2 ^ maxExponent format / 2) :
    rounded format (greatest format + small) = greatest format := by
  have place :
      (format.exponentBias : ℤ) + 1 - format.mantissaBits =
        maxExponent format := by
    unfold maxExponent Format.mantissaBits
    push_cast
    ring
  have normal :
      format.minExponent ≤
        (format.exponentBias : ℤ) + 1 - format.mantissaBits := by
    have bias := one_le_exponentBias wide
    have finest := minExponent_eq format
    rw [place, finest]
    unfold maxExponent
    omega
  have onGrid :
      greatest format =
        ((2 ^ format.mantissaBits - 1 : ℤ) : ℚ) *
          2 ^ ((format.exponentBias : ℤ) + 1 - format.mantissaBits) := by
    rw [place, greatest]
    push_cast
    rfl
  have step : (0 : ℚ) < 2 ^ maxExponent format := by positivity
  have below :
      greatest format + small < 2 ^ ((format.exponentBias : ℤ) + 1) := by
    have overflows := greatest_add_step format
    rw [overflow] at overflows
    linarith
  exact rounded_add_of_lt onGrid normal (two_pow_bias_le_greatest format) below
    nonneg (by rwa [place])

end Greatest

namespace Double

theorem two_pow_le_limit
    {bits : Nat}
    (inRange : bits ≤ 1023) :
    (2 : ℚ) ^ bits ≤ limit (spec Float) := by
  rw [limit_eq]
  exact pow_le_pow_right₀ (by decide) inRange

theorem le_limit_of_le
    {whole bits : Nat}
    (few : bits ≤ 1023)
    (small : whole ≤ 2 ^ bits) :
    (whole : ℚ) ≤ limit (spec Float) := by
  have cast : (whole : ℚ) ≤ 2 ^ bits := by exact_mod_cast small
  exact cast.trans (two_pow_le_limit few)

theorem is_ofNat_of_le
    {whole : Nat}
    (small : whole ≤ 2 ^ 53) :
    Is (Float.ofNat whole) whole := by
  have isRounded := is_ofNat (le_limit_of_le (by decide) small)
  rwa [(Representable.natCast small).rounded_eq] at isRounded

/-- A position and a step that is not negative have a finite sum. -/
theorem is_add
    {position step : Float}
    {exact distance : ℚ}
    (isPosition : Is position exact)
    (isStep : Is step distance)
    (nonneg : 0 ≤ exact)
    (bounded : exact ≤ 2 ^ 63)
    (forward : 0 ≤ distance) :
    Is (position + step) (rounded (spec Float) (exact + distance)) := by
  have sumNonneg : 0 ≤ rounded (spec Float) (exact + distance) :=
    rounded_nonneg (add_nonneg nonneg forward)
  have lost : (2 ^ 63 : ℚ) < 2 ^ maxExponent (spec Float) / 2 := by
    have exponent : maxExponent (spec Float) = 970 + 1 := rfl
    rw [exponent, zpow_add₀ (by decide), zpow_one,
      mul_div_cancel_right₀ _ (by decide)]
    exact zpow_lt_zpow_right₀ (by decide) (show (63 : ℤ) < 970 by decide)
  have stepGreatest : distance ≤ greatest (spec Float) :=
    Denotes.le_greatest FloatingPoint.wide isStep
      ((le_abs_self distance).trans_lt isStep.abs_lt_overflow)
  have atMost :
      rounded (spec Float) (exact + distance) ≤ greatest (spec Float) := by
    rw [← rounded_greatest_add FloatingPoint.wide (by positivity) lost,
      add_comm exact]
    exact rounded_mono (add_le_add stepGreatest bounded)
  unfold Is
  rw [FloatingPoint.unpack_add,
    stored_of_abs_eq FloatingPoint.wide (Denotes.add isPosition isStep)]
  · exact Denotes.add isPosition isStep
  · rw [abs_of_nonneg sumNonneg]
    exact atMost.trans_lt (greatest_lt_overflow _)

end Double

end Polyphony.Number
