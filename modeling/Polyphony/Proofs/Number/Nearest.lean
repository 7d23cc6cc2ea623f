import Polyphony.Number.Extremum
import Polyphony.Proofs.Number.Conversion

namespace Polyphony.Number

/-!
# Extremes and nearest whole numbers

The larger of two finite numbers is the larger of the rational numbers that they
are.  A number is rounded to a whole one by splitting it at the point: a half and
more behind the point goes up, in magnitude.
-/

open Float.Model (Format UnpackedFloat)
open Float.Model.UnpackedFloat
open FloatingPoint (spec unpack)

/-! ## Extremes -/

theorem Denotes.isNaN
    {format : Format}
    {exact : ℚ}
    {number : UnpackedFloat}
    (denotes : Denotes format exact number) :
    number.isNaN = false := by
  cases denotes <;> rfl

theorem Is.isNaN
    {value : Float32}
    {exact : ℚ}
    (isExact : Is value exact) :
    value.isNaN = false :=
  Denotes.isNaN isExact

theorem Is.larger
    {first second : Float32}
    {exact other : ℚ}
    (isFirst : Is first exact)
    (isSecond : Is second other) :
    Is (larger first second) (max exact other) := by
  have order := isSecond.lt_iff isFirst
  unfold Number.larger
  rw [isSecond.isNaN, if_neg Bool.false_ne_true]
  split
  · rename_i greater
    rwa [max_eq_left (order.mp greater).le]
  · rename_i notGreater
    rwa [max_eq_right (not_lt.mp (notGreater ∘ order.mpr))]

/-! ## Whole and fractional parts -/

/-- A number of a format is whole, or is that many small steps. -/
theorem Representable.whole_or_steps
    {format : Format}
    {exact : ℚ}
    (representable : Representable format exact) :
    (∃ whole : ℤ, exact = whole) ∨
      ∃ (steps : ℤ) (places : Nat),
        |steps| ≤ 2 ^ format.mantissaBits ∧
          format.minExponent ≤ -(places : ℤ) ∧
          exact = steps / (2 ^ places : ℕ) := by
  obtain ⟨mantissa, exponent, small, fine, isExact⟩ := representable
  rcases le_or_gt 0 exponent with whole | behind
  · refine .inl ⟨mantissa * 2 ^ exponent.toNat, ?_⟩
    rw [isExact, ← Int.toNat_of_nonneg whole]
    push_cast
    rfl
  · have opposite : -((-exponent).toNat : ℤ) = exponent := by omega
    refine .inr ⟨mantissa, (-exponent).toNat, small, by rwa [opposite], ?_⟩
    rw [isExact, ← opposite, zpow_neg, zpow_natCast, opposite]
    push_cast
    exact (div_eq_mul_inv _ _).symm

/-- The whole part of a number is a number of the format. -/
theorem Representable.floor
    {format : Format}
    {exact : ℚ}
    (representable : Representable format exact) :
    Representable format ⌊exact⌋ := by
  rcases representable.whole_or_steps with
    ⟨whole, isWhole⟩ | ⟨steps, places, small, -, isSteps⟩
  · rwa [isWhole, Int.floor_intCast, ← isWhole]
  · rw [isSteps, Rat.floor_intCast_div_natCast]
    exact .intCast ((Int.abs_ediv_le_abs _ _).trans small)

/-- The part of a number behind the point is a number of the format, too. -/
theorem Representable.fract
    {format : Format}
    {exact : ℚ}
    (representable : Representable format exact)
    (nonneg : 0 ≤ exact) :
    Representable format (Int.fract exact) := by
  rcases representable.whole_or_steps with
    ⟨whole, isWhole⟩ | ⟨steps, places, small, fine, isSteps⟩
  · rw [isWhole, Int.fract_intCast]
    exact ⟨0, 0, by simp, minExponent_nonpos format, by simp⟩
  · have divisor : (0 : ℤ) < (2 ^ places : ℕ) := by positivity
    have stepsNonneg : 0 ≤ steps := by
      have divisorCast : (0 : ℚ) < (2 ^ places : ℕ) := by exact_mod_cast divisor
      rw [isSteps, le_div_iff₀ divisorCast, zero_mul] at nonneg
      exact_mod_cast nonneg
    have quotient : 0 ≤ steps / (2 ^ places : ℕ) :=
      Int.ediv_nonneg stepsNonneg divisor.le
    have division := Int.emod_add_mul_ediv steps (2 ^ places : ℕ)
    have restNonneg := Int.emod_nonneg steps divisor.ne'
    have restSmall : steps % (2 ^ places : ℕ) ≤ steps := by
      have product := mul_nonneg divisor.le quotient
      linarith
    refine ⟨steps % (2 ^ places : ℕ), -places, ?_, fine, ?_⟩
    · rw [abs_of_nonneg restNonneg]
      exact restSmall.trans ((le_abs_self steps).trans small)
    · rw [isSteps, Int.fract_div_intCast_eq_div_intCast_mod, zpow_neg,
        zpow_natCast, div_eq_mul_inv]
      push_cast
      rfl

/-- The nearest whole number of a magnitude, a half going up. -/
def nearestUp (magnitude : ℚ) : ℚ :=
  if magnitude < 2 ^ 23 then
    ⌊magnitude + 1 / 2⌋
  else
    magnitude

theorem nearestUp_mono
    {first second : ℚ}
    (ordered : first ≤ second) :
    nearestUp first ≤ nearestUp second := by
  unfold nearestUp
  split
  · rename_i firstSmall
    split
    · exact_mod_cast Int.floor_le_floor (by linarith : first + 1 / 2 ≤ second + 1 / 2)
    · rename_i secondGreat
      have below : ⌊first + 1 / 2⌋ ≤ (2 ^ 23 : ℤ) := by
        rw [← Int.lt_add_one_iff, Int.floor_lt]
        push_cast
        linarith
      have cast : (⌊first + 1 / 2⌋ : ℚ) ≤ 2 ^ 23 := by exact_mod_cast below
      linarith
  · rename_i firstGreat
    rw [if_neg (fun secondSmall => firstGreat (lt_of_le_of_lt ordered secondSmall))]
    exact ordered

/-! ## Constants -/

namespace Single

/-- Whole numbers of at most twenty-four bits are not rounded. -/
theorem is_ofNat_of_le
    {whole : Nat}
    (small : whole ≤ 2 ^ 24) :
    Is (Float32.ofNat whole) whole := by
  have representable : Representable (spec Float32) whole := .natCast small
  have inRange : (whole : ℚ) ≤ limit (spec Float32) := by
    have cast : (whole : ℚ) ≤ 2 ^ 24 := by exact_mod_cast small
    rw [limit_eq]
    exact cast.trans (by norm_num)
  have isRounded := is_ofNat inRange
  rwa [representable.rounded_eq] at isRounded

theorem is_toFloat32_of_le
    {word : UInt32}
    (small : word.toNat ≤ 2 ^ 24) :
    Is word.toFloat32 word.toNat := by
  have representable : Representable (spec Float32) (word.toNat : ℚ) :=
    .natCast small
  have inRange : |((word.toNat : ℤ) : ℚ)| ≤ limit (spec Float32) := by
    have cast : (word.toNat : ℚ) ≤ 2 ^ 24 := by exact_mod_cast small
    rw [limit_eq]
    exact abs_le_of_nat (cast.trans (by norm_num))
  have isRounded : Is word.toFloat32 _ := is_of_whole rfl inRange
  rwa [Int.cast_natCast, representable.rounded_eq] at isRounded

theorem is_half : Is (0.5 : Float32) (1 / 2) := by
  have parts :
      unpack (0.5 : Float32) =
        .finite .positive (2 ^ 23) (-24) (by decide) :=
    rfl
  have isExact := is_of_unpack parts
  norm_num at isExact
  exact isExact

end Single

/-! ## Rounding -/

/-- A small magnitude is split at the point, and rounded by what is behind it. -/
theorem Is.splitAtPoint
    {magnitude : Float32}
    {exact : ℚ}
    (isExact : Is magnitude exact)
    (nonneg : 0 ≤ exact)
    (small : exact < 2 ^ 23) :
    Is
      (if magnitude - magnitude.toUInt32.toFloat32 < 0.5 then
        magnitude.toUInt32.toFloat32
      else
        magnitude.toUInt32.toFloat32 + 1)
      (nearestUp exact) := by
  have floorNonneg : 0 ≤ ⌊exact⌋ := Int.floor_nonneg.mpr nonneg
  have floorSmall : ⌊exact⌋ < 2 ^ 23 := by
    rw [Int.floor_lt]
    exact_mod_cast small
  have word : (magnitude.toUInt32.toNat : ℤ) = ⌊exact⌋ := by
    rw [isExact.toUInt32 nonneg]
    omega
  have isWhole : Is magnitude.toUInt32.toFloat32 ⌊exact⌋ := by
    have isWord : Is magnitude.toUInt32.toFloat32 _ :=
      Single.is_toFloat32_of_le (by omega)
    rwa [← Int.cast_natCast, word] at isWord
  have isPart :
      Is (magnitude - magnitude.toUInt32.toFloat32) (Int.fract exact) := by
    have representable := (Denotes.representable isExact).fract nonneg
    have partSmall : |exact - ⌊exact⌋| ≤ limit (spec Float32) := by
      rw [Single.limit_eq, Int.self_sub_floor, Int.abs_fract]
      exact (Int.fract_lt_one exact).le.trans (by norm_num)
    have difference := isExact.sub isWhole partSmall
    rwa [Int.self_sub_floor, representable.rounded_eq] at difference
  have isNext : Is (magnitude.toUInt32.toFloat32 + 1) (⌊exact⌋ + 1 : ℤ) := by
    have isOne : Is (1 : Float32) (1 : ℕ) := Single.is_ofNat_of_le (by decide)
    have representable : Representable (spec Float32) ((⌊exact⌋ + 1 : ℤ) : ℚ) := by
      apply Representable.intCast
      rw [abs_of_nonneg (by omega)]
      exact le_trans floorSmall (by decide)
    have sumSmall : |(⌊exact⌋ : ℚ) + (1 : ℕ)| ≤ limit (spec Float32) := by
      have cast : (⌊exact⌋ : ℚ) + 1 ≤ 2 ^ 23 := by exact_mod_cast floorSmall
      have castNonneg : (0 : ℚ) ≤ ⌊exact⌋ := by exact_mod_cast floorNonneg
      rw [Single.limit_eq, Nat.cast_one, abs_of_nonneg (by linarith)]
      exact cast.trans (by norm_num)
    have sum := isWhole.add isOne sumSmall
    rwa [Nat.cast_one, ← Int.cast_one, ← Int.cast_add, representable.rounded_eq]
      at sum
  have behind := isPart.lt_iff Single.is_half
  have parts := Int.floor_add_fract exact
  have fractNonneg := Int.fract_nonneg exact
  have fractSmall := Int.fract_lt_one exact
  unfold Number.nearestUp
  rw [if_pos small]
  split
  · rename_i less
    have lessHalf := behind.mp less
    have same : ⌊exact + 1 / 2⌋ = ⌊exact⌋ := by
      rw [Int.floor_eq_iff]
      constructor <;> linarith
    rwa [same]
  · rename_i notLess
    have atLeastHalf := not_lt.mp (notLess ∘ behind.mpr)
    have next : ⌊exact + 1 / 2⌋ = ⌊exact⌋ + 1 := by
      rw [Int.floor_eq_iff]
      push_cast
      constructor <;> linarith
    rwa [next]

theorem Is.roundHalfAway
    {value : Float32}
    {exact : ℚ}
    (isExact : Is value exact) :
    Is (roundHalfAway value)
      (if exact < 0 then -nearestUp (-exact) else nearestUp exact) := by
  have isAbs := isExact.abs
  have isBound : Is (8388608 : Float32) (8388608 : ℕ) :=
    Single.is_ofNat_of_le (by decide)
  have bounded := isAbs.lt_iff isBound
  unfold Number.roundHalfAway
  split
  · rename_i less
    have small : |exact| < 2 ^ 23 := by
      have cast := bounded.mp less
      norm_num at cast ⊢
      exact cast
    have isNearest := isAbs.splitAtPoint (abs_nonneg exact) small
    dsimp only
    rcases lt_trichotomy exact 0 with negative | isZero | positive
    · rw [isExact.isNegative negative.ne, decide_eq_true negative,
        if_pos rfl, if_pos negative]
      rw [abs_of_neg negative] at isNearest
      exact isNearest.neg
    · have noSteps : nearestUp 0 = 0 := by norm_num [nearestUp]
      rw [isZero, abs_zero, noSteps] at isNearest
      rw [isZero, if_neg (lt_irrefl 0), noSteps]
      split
      · have opposite := isNearest.neg
        rwa [neg_zero] at opposite
      · exact isNearest
    · have notNegative := not_lt.mpr positive.le
      rw [isExact.isNegative positive.ne', decide_eq_false notNegative,
        if_neg Bool.false_ne_true, if_neg notNegative]
      rwa [abs_of_pos positive] at isNearest
  · rename_i notLess
    have great : (2 ^ 23 : ℚ) ≤ |exact| := by
      have cast := not_lt.mp (notLess ∘ bounded.mpr)
      norm_num at cast ⊢
      exact cast
    unfold Number.nearestUp
    split
    · rename_i negative
      rw [abs_of_neg negative] at great
      rwa [if_neg (not_lt.mpr great), neg_neg]
    · rename_i notNegative
      rw [abs_of_nonneg (not_lt.mp notNegative)] at great
      rwa [if_neg (not_lt.mpr great)]

end Polyphony.Number
