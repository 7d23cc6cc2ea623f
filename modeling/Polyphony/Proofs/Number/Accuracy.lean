import Polyphony.Proofs.Number.Grid
import Polyphony.Proofs.Number.Packing

namespace Polyphony.Number

/-!
# Rounding of mantissas

Operations compute a mantissa that is cut off, and keep with it whether what was
cut off is nothing, less than a half, a half or more than a half of its last
place.  Shifting a mantissa to the right keeps this account right.  So what an
operation rounds to is the point of the grid that is nearest to its exact result.
-/

open Float.Model (Format UnpackedFloat totalExponent)
open Float.Model.UnpackedFloat

variable {spec : Format}

/-! ## What was cut off -/

/-- What an accuracy says of the part of a unit that was cut off. -/
def Describes : Accuracy → ℚ → Prop
  | .exact, part => part = 0
  | .inexact .lt, part => 0 < part ∧ part < 1 / 2
  | .inexact .eq, part => part = 1 / 2
  | .inexact .gt, part => 1 / 2 < part ∧ part < 1

/-- A cut mantissa and its residual bits account for an exact number. -/
def Represents
    (extended : ExtendedMantissa)
    (exact : ℚ) : Prop :=
  Describes extended.accuracy (exact - extended.mantissa)

theorem Describes.nonneg
    {accuracy : Accuracy}
    {part : ℚ}
    (described : Describes accuracy part) :
    0 ≤ part := by
  cases accuracy with
  | exact => exact described.ge
  | inexact order =>
      cases order with
      | lt => exact described.1.le
      | eq => exact le_of_le_of_eq (by norm_num) described.symm
      | gt => exact le_trans (by norm_num) described.1.le

theorem Describes.lt_one
    {accuracy : Accuracy}
    {part : ℚ}
    (described : Describes accuracy part) :
    part < 1 := by
  cases accuracy with
  | exact => exact lt_of_eq_of_lt described (by norm_num)
  | inexact order =>
      cases order with
      | lt => exact lt_trans described.2 (by norm_num)
      | eq => exact lt_of_eq_of_lt described (by norm_num)
      | gt => exact described.2

/-- A cut mantissa is the whole part of what it stands for. -/
theorem Describes.floor
    {accuracy : Accuracy}
    {mantissa : Nat}
    {exact : ℚ}
    (described : Describes accuracy (exact - mantissa)) :
    ⌊exact⌋ = mantissa := by
  have nonneg := described.nonneg
  have below := described.lt_one
  rw [Int.floor_eq_iff]
  push_cast
  constructor <;> linarith

/-- Rounding by the account gives the nearest whole number. -/
theorem Describes.roundToNearestEven
    {accuracy : Accuracy}
    {mantissa : Nat}
    {exact : ℚ}
    (described : Describes accuracy (exact - mantissa)) :
    (accuracy.roundToNearestEven mantissa : ℤ) = nearestEven exact := by
  unfold nearestEven
  rw [described.floor, Int.cast_natCast]
  cases accuracy with
  | exact =>
      change exact - mantissa = 0 at described
      rw [described, if_pos (by norm_num)]
      rfl
  | inexact order =>
      cases order with
      | lt =>
          rw [if_pos described.2]
          rfl
      | eq =>
          change exact - mantissa = 1 / 2 at described
          rw [described, if_neg (lt_irrefl _), if_neg (lt_irrefl _)]
          rfl
      | gt =>
          rw [if_neg (not_lt.mpr described.1.le), if_pos described.1]
          rfl

theorem accuracy_ofMantissaAndAccuracy
    (mantissa : Nat)
    (accuracy : Accuracy) :
    (ExtendedMantissa.ofMantissaAndAccuracy mantissa accuracy).accuracy =
      accuracy := by
  cases accuracy with
  | exact => rfl
  | inexact order => cases order <;> rfl

theorem mantissa_ofMantissaAndAccuracy
    (mantissa : Nat)
    (accuracy : Accuracy) :
    (ExtendedMantissa.ofMantissaAndAccuracy mantissa accuracy).mantissa =
      mantissa := by
  cases accuracy with
  | exact => rfl
  | inexact order => cases order <;> rfl

theorem Describes.represents
    {accuracy : Accuracy}
    {mantissa : Nat}
    {exact : ℚ}
    (described : Describes accuracy (exact - mantissa)) :
    Represents (.ofMantissaAndAccuracy mantissa accuracy) exact := by
  unfold Represents
  rwa [accuracy_ofMantissaAndAccuracy, mantissa_ofMantissaAndAccuracy]

/-- Half of a number is accounted for by the mantissa shifted by one place. -/
theorem Represents.shiftRightOne
    {extended : ExtendedMantissa}
    {exact : ℚ}
    (represents : Represents extended exact) :
    Represents extended.shiftRightOne (exact / 2) := by
  obtain ⟨mantissa, roundBit, stickyBit⟩ := extended
  have division : (2 * (mantissa / 2 : Nat) + (mantissa % 2 : Nat) : ℚ) = mantissa := by
    exact_mod_cast Nat.div_add_mod mantissa 2
  unfold Represents at represents ⊢
  unfold ExtendedMantissa.shiftRightOne
  rcases Nat.mod_two_eq_zero_or_one mantissa with even | odd
  · rw [even, Nat.cast_zero] at division
    cases roundBit <;> cases stickyBit <;>
      simp [ExtendedMantissa.accuracy, Describes, even] at represents ⊢
    · linarith
    all_goals
      constructor <;> linarith
  · rw [odd, Nat.cast_one] at division
    cases roundBit <;> cases stickyBit <;>
      simp [ExtendedMantissa.accuracy, Describes, odd] at represents ⊢
    · linarith
    all_goals
      constructor <;> linarith

theorem Represents.shiftRight
    {extended : ExtendedMantissa}
    {exact : ℚ}
    (represents : Represents extended exact)
    (places : Nat) :
    Represents (extended >>> places) (exact / 2 ^ places) := by
  change Represents (places.repeat ExtendedMantissa.shiftRightOne extended) _
  induction places with
  | zero => simpa [Nat.repeat] using represents
  | succ places inductionHypothesis =>
      rw [Nat.repeat, pow_succ, ← div_div]
      exact inductionHypothesis.shiftRightOne

/-- The account of a fraction of the last place. -/
theorem describes_accuracyOfFraction
    {numerator denominator : Nat}
    (proper : numerator < denominator) :
    Describes (accuracyOfFraction numerator denominator)
      (numerator / denominator) := by
  have pos : (0 : ℚ) < denominator := by
    exact_mod_cast Nat.zero_lt_of_lt proper
  unfold accuracyOfFraction
  split
  · rename_i isZero
    simp [Describes, isZero]
  · rename_i notZero
    have numeratorPos : (0 : ℚ) < numerator := by
      exact_mod_cast Nat.pos_of_ne_zero notZero
    rcases Nat.lt_trichotomy (2 * numerator) denominator with less | equal | more
    · have half : (2 * numerator : ℚ) < denominator := by exact_mod_cast less
      rw [Nat.compare_eq_lt.mpr less]
      refine ⟨by positivity, ?_⟩
      rw [div_lt_iff₀ pos]
      linarith
    · have half : (2 * numerator : ℚ) = denominator := by exact_mod_cast equal
      rw [Nat.compare_eq_eq.mpr equal]
      change (numerator / denominator : ℚ) = 1 / 2
      rw [div_eq_iff pos.ne']
      linarith
    · have half : (denominator : ℚ) < 2 * numerator := by exact_mod_cast more
      have less : (numerator : ℚ) < denominator := by exact_mod_cast proper
      rw [Nat.compare_eq_gt.mpr more]
      refine ⟨?_, ?_⟩
      · rw [lt_div_iff₀ pos]
        linarith
      · rw [div_lt_one pos]
        exact less

/-! ## What a number denotes -/

/-- A magnitude with a sign. -/
def signed : Sign → ℚ → ℚ
  | .negative, magnitude => -magnitude
  | .positive, magnitude => magnitude

@[simp] theorem signed_negative (magnitude : ℚ) :
    signed .negative magnitude = -magnitude := rfl

@[simp] theorem signed_positive (magnitude : ℚ) :
    signed .positive magnitude = magnitude := rfl

@[simp] theorem signed_zero (sign : Sign) :
    signed sign 0 = 0 := by
  cases sign with
  | negative => exact neg_zero
  | positive => rfl

@[simp] theorem abs_signed
    (sign : Sign)
    (magnitude : ℚ) :
    |signed sign magnitude| = |magnitude| := by
  cases sign with
  | negative => exact abs_neg magnitude
  | positive => rfl

theorem rounded_signed
    (sign : Sign)
    {magnitude : ℚ}
    (nonneg : 0 ≤ magnitude) :
    rounded spec (signed sign magnitude) =
      signed sign (roundedMagnitude spec magnitude) := by
  cases sign with
  | negative =>
      change rounded spec (-magnitude) = -roundedMagnitude spec magnitude
      rw [rounded_neg, rounded_of_nonneg nonneg]
  | positive => exact rounded_of_nonneg nonneg

/-- A finite number in the form of a format, and the rational number it is. -/
inductive Denotes (spec : Format) : ℚ → UnpackedFloat → Prop where
  | zero (sign : Sign) : Denotes spec 0 (.zero sign)
  | finite
      {mantissa : Nat}
      {exponent : ℤ}
      (canonical : CanonicalForm spec mantissa exponent)
      (sign : Sign)
      (pos : 0 < mantissa) :
      Denotes spec (signed sign (mantissa * 2 ^ exponent))
        (.finite sign mantissa exponent pos)

/-- The number of a mantissa, which may be zero. -/
def ofMantissa
    (sign : Sign)
    (mantissa : Nat)
    (exponent : ℤ) :
    UnpackedFloat :=
  if isZero : mantissa = 0 then
    .zero sign
  else
    .finite sign mantissa exponent (Nat.pos_of_ne_zero isZero)

theorem ofMantissa_denotes
    {mantissa : Nat}
    {exponent : ℤ}
    (canonical : CanonicalForm spec mantissa exponent)
    (sign : Sign) :
    Denotes spec (signed sign (mantissa * 2 ^ exponent))
      (ofMantissa sign mantissa exponent) := by
  unfold ofMantissa
  split
  · rename_i isZero
    rw [isZero, Nat.cast_zero, zero_mul, signed_zero]
    exact .zero sign
  · exact .finite canonical sign _

theorem Describes.shiftToExponent
    {accuracy : Accuracy}
    {mantissa : Nat}
    {exact : ℚ}
    {exponent target : ℤ}
    (described : Describes accuracy (exact - mantissa))
    (coarser : exponent ≤ target) :
    (shiftToExponent mantissa exponent accuracy target).2 = target ∧
      Represents (shiftToExponent mantissa exponent accuracy target).1
        (exact * 2 ^ exponent / 2 ^ target) := by
  have scaled :
      exact * 2 ^ exponent / 2 ^ target =
        exact / 2 ^ (target - exponent).toNat := by
    have split :
        (2 : ℚ) ^ target = 2 ^ (target - exponent).toNat * 2 ^ exponent := by
      rw [← zpow_natCast, ← zpow_add₀ (by decide)]
      congr 1
      omega
    rw [split, mul_div_mul_right _ _ (by positivity)]
  rw [scaled]
  refine ⟨?_, described.represents.shiftRight _⟩
  simp only [Float.Model.UnpackedFloat.shiftToExponent]
  omega

/-- A mantissa of a fine enough exponent is not shifted. -/
theorem shiftToTargetExponent_of_le
    {mantissa : Nat}
    {exponent : ℤ}
    (finer : spec.targetExponent (totalExponent mantissa exponent) ≤ exponent) :
    shiftToTargetExponent spec mantissa exponent .exact =
      (.ofMantissaAndAccuracy mantissa .exact, exponent) := by
  have noShift :
      (spec.targetExponent (totalExponent mantissa exponent) -
        exponent).toNat = 0 := by
    omega
  simp only [shiftToTargetExponent, shiftToExponent, noShift]
  rw [Nat.cast_zero, add_zero]
  rfl

/-- A mantissa that is not too long stays; a full one is carried over. -/
theorem carried_denotes
    {mantissa : Nat}
    {exponent : ℤ}
    (atMost : mantissa ≤ 2 ^ spec.mantissaBits)
    (fine : spec.minExponent ≤ exponent)
    (full :
      2 ^ spec.mantissaBitsWithoutImplicit ≤ mantissa ∨
        exponent = spec.minExponent)
    (sign : Sign) :
    Denotes spec (signed sign (mantissa * 2 ^ exponent))
      (ofMantissa sign
        (shiftToTargetExponent spec mantissa exponent .exact).1.mantissa
        (shiftToTargetExponent spec mantissa exponent .exact).2) := by
  have double := two_pow_mantissaBits spec
  have bits := two_le_mantissaBits spec
  rcases Nat.lt_or_eq_of_le atMost with fits | isFull
  · have short : mantissa.log2 < spec.mantissaBits := by
      by_cases isZero : mantissa = 0
      · rw [isZero, Nat.log2_zero]
        omega
      · exact (Nat.log2_lt isZero).mpr fits
    have finer :
        spec.targetExponent (totalExponent mantissa exponent) ≤ exponent := by
      unfold Format.targetExponent totalExponent
      omega
    rw [shiftToTargetExponent_of_le finer]
    exact ofMantissa_denotes ⟨fits, fine, full⟩ sign
  · have log : mantissa.log2 = spec.mantissaBits := by
      rw [isFull, Nat.log2_two_pow]
    have oneCoarser :
        spec.targetExponent (totalExponent mantissa exponent) =
          exponent + 1 := by
      unfold Format.targetExponent totalExponent
      omega
    have shifted :
        shiftToTargetExponent spec mantissa exponent .exact =
          (.shiftRightOne (.ofMantissaAndAccuracy mantissa .exact),
            exponent + 1) := by
      simp only [shiftToTargetExponent, shiftToExponent, oneCoarser,
        add_sub_cancel_left]
      rfl
    have half : mantissa / 2 = 2 ^ spec.mantissaBitsWithoutImplicit := by
      omega
    have canonical :
        CanonicalForm spec (mantissa / 2) (exponent + 1) := by
      have pos : 0 < 2 ^ spec.mantissaBitsWithoutImplicit := by positivity
      exact ⟨by omega, by omega, .inl half.ge⟩
    have sameMagnitude :
        (mantissa * 2 ^ exponent : ℚ) =
          (mantissa / 2 : Nat) * 2 ^ (exponent + 1) := by
      have halves : (mantissa : ℚ) = 2 * (mantissa / 2 : Nat) := by
        exact_mod_cast (by omega : mantissa = 2 * (mantissa / 2))
      rw [zpow_add₀ (by decide), halves]
      ring
    rw [shifted, sameMagnitude]
    exact ofMantissa_denotes canonical sign

/-! ## Rounding with an accuracy -/

theorem Describes.lt_two_pow
    {accuracy : Accuracy}
    {mantissa : Nat}
    {exact : ℚ}
    (described : Describes accuracy (exact - mantissa)) :
    exact < 2 ^ (mantissa.log2 + 1 : ℤ) := by
  have below := described.lt_one
  have power : mantissa + 1 ≤ 2 ^ (mantissa.log2 + 1) := Nat.lt_log2_self
  have cast : (mantissa + 1 : ℚ) ≤ 2 ^ (mantissa.log2 + 1) := by
    exact_mod_cast power
  exact_mod_cast (by linarith : exact < 2 ^ (mantissa.log2 + 1))

theorem Describes.two_pow_le
    {accuracy : Accuracy}
    {mantissa : Nat}
    {exact : ℚ}
    (described : Describes accuracy (exact - mantissa))
    (notZero : mantissa ≠ 0) :
    2 ^ (mantissa.log2 : ℤ) ≤ exact := by
  have nonneg := described.nonneg
  have cast : (2 : ℚ) ^ mantissa.log2 ≤ mantissa := by
    exact_mod_cast Nat.log2_self_le notZero
  rw [zpow_natCast]
  linarith

/-- A mantissa is shifted to the grid of the number that it stands for. -/
theorem gridExponent_eq_targetExponent
    {accuracy : Accuracy}
    {mantissa : Nat}
    {exact : ℚ}
    {exponent : ℤ}
    (described : Describes accuracy (exact - mantissa))
    (pos : 0 < exact)
    (finest : mantissa = 0 → exponent ≤ spec.minExponent) :
    gridExponent spec (exact * 2 ^ exponent) =
      spec.targetExponent (totalExponent mantissa exponent) := by
  have bits := two_le_mantissaBits spec
  have upper : Int.log 2 (exact * 2 ^ exponent) < mantissa.log2 + 1 + exponent := by
    rw [← Int.lt_zpow_iff_log_lt (by decide) (by positivity)]
    push_cast
    rw [zpow_add₀ (by decide)]
    exact mul_lt_mul_of_pos_right described.lt_two_pow (by positivity)
  unfold gridExponent Format.targetExponent totalExponent
  by_cases isZero : mantissa = 0
  · have fine := finest isZero
    rw [isZero, Nat.log2_zero] at upper ⊢
    omega
  · have lower : mantissa.log2 + exponent ≤ Int.log 2 (exact * 2 ^ exponent) := by
      rw [← Int.zpow_le_iff_le_log (by decide) (by positivity)]
      push_cast
      rw [zpow_add₀ (by decide)]
      exact mul_le_mul_of_nonneg_right (described.two_pow_le isZero)
        (by positivity)
    omega

/-- What is cut to the length of a mantissa is not longer. -/
theorem Describes.scaled_le
    {accuracy : Accuracy}
    {mantissa : Nat}
    {exact : ℚ}
    {exponent target : ℤ}
    (described : Describes accuracy (exact - mantissa))
    (coarse : mantissa.log2 + 1 + exponent - spec.mantissaBits ≤ target) :
    exact * 2 ^ exponent / 2 ^ target ≤ 2 ^ spec.mantissaBits := by
  have below := described.lt_two_pow
  rw [div_le_iff₀ (by positivity), ← zpow_natCast,
    ← zpow_add₀ (by decide)]
  calc
    exact * 2 ^ exponent ≤ 2 ^ (mantissa.log2 + 1 : ℤ) * 2 ^ exponent :=
      mul_le_mul_of_nonneg_right below.le (by positivity)
    _ = 2 ^ (mantissa.log2 + 1 + exponent) := by
      rw [← zpow_add₀ (by decide)]
    _ ≤ 2 ^ (spec.mantissaBits + target) :=
      zpow_le_zpow_right₀ (by decide) (by omega)

/-- What is cut to the length of a mantissa fills it. -/
theorem Describes.le_scaled
    {accuracy : Accuracy}
    {mantissa : Nat}
    {exact : ℚ}
    {exponent target : ℤ}
    (described : Describes accuracy (exact - mantissa))
    (notZero : mantissa ≠ 0)
    (fine : target ≤ mantissa.log2 + 1 + exponent - spec.mantissaBits) :
    2 ^ spec.mantissaBitsWithoutImplicit ≤
      exact * 2 ^ exponent / 2 ^ target := by
  have above := described.two_pow_le notZero
  have leading : spec.mantissaBits = 1 + spec.mantissaBitsWithoutImplicit := rfl
  rw [le_div_iff₀ (by positivity), ← zpow_natCast,
    ← zpow_add₀ (by decide)]
  calc
    (2 : ℚ) ^ (spec.mantissaBitsWithoutImplicit + target) ≤
        2 ^ (mantissa.log2 + exponent) :=
      zpow_le_zpow_right₀ (by decide) (by omega)
    _ = 2 ^ (mantissa.log2 : ℤ) * 2 ^ exponent := by
      rw [← zpow_add₀ (by decide)]
    _ ≤ exact * 2 ^ exponent :=
      mul_le_mul_of_nonneg_right above (by positivity)

/-- A mantissa and its accuracy are rounded to the grid of what they stand for. -/
theorem roundWithAccuracy_denotes
    {accuracy : Accuracy}
    {mantissa : Nat}
    {exact : ℚ}
    {exponent : ℤ}
    (described : Describes accuracy (exact - mantissa))
    (fine :
      exponent ≤ spec.targetExponent (totalExponent mantissa exponent))
    (finest : mantissa = 0 → exponent ≤ spec.minExponent)
    (sign : Sign) :
    Denotes spec (rounded spec (signed sign (exact * 2 ^ exponent)))
      (roundWithAccuracy spec sign mantissa exponent accuracy) := by
  have bits := two_le_mantissaBits spec
  have nonneg : 0 ≤ exact := by
    have part := described.nonneg
    have whole : (0 : ℚ) ≤ mantissa := Nat.cast_nonneg mantissa
    linarith
  generalize isTarget :
    spec.targetExponent (totalExponent mantissa exponent) = target at fine
  have isMax :
      target =
        max (mantissa.log2 + 1 + exponent - spec.mantissaBits)
          spec.minExponent :=
    isTarget.symm
  have unfolded :
      roundWithAccuracy spec sign mantissa exponent accuracy =
        let first := shiftToExponent mantissa exponent accuracy target
        let second :=
          shiftToTargetExponent spec first.1.roundedMantissa first.2 .exact
        ofMantissa sign second.1.mantissa second.2 := by
    rw [← isTarget]
    rfl
  obtain ⟨reached, represents⟩ := described.shiftToExponent fine
  have rounding := represents.roundToNearestEven
  rw [unfolded]
  dsimp only
  rw [reached]
  generalize isMantissa :
    (shiftToExponent mantissa exponent accuracy
      target).1.roundedMantissa = nearest
  have isNearest :
      (nearest : ℤ) = nearestEven (exact * 2 ^ exponent / 2 ^ target) := by
    rw [← isMantissa]
    exact rounding
  have sameMagnitude :
      roundedMagnitude spec (exact * 2 ^ exponent) = nearest * 2 ^ target := by
    rcases eq_or_lt_of_le nonneg with isZero | pos
    · have noSteps : (nearest : ℤ) = nearestEven (0 : ℤ) := by
        rw [isNearest, ← isZero, zero_mul, zero_div, Int.cast_zero]
      rw [nearestEven_intCast, Nat.cast_eq_zero] at noSteps
      rw [← isZero, zero_mul, roundedMagnitude_zero, noSteps, Nat.cast_zero,
        zero_mul]
    · have onGrid := gridExponent_eq_targetExponent described pos finest
      rw [roundedMagnitude, onGrid, isTarget, ← isNearest, Int.cast_natCast]
  have atMost : nearest ≤ 2 ^ spec.mantissaBits := by
    have below :
        exact * 2 ^ exponent / 2 ^ target ≤ (2 ^ spec.mantissaBits : ℤ) := by
      exact_mod_cast described.scaled_le (by omega)
    have steps := nearestEven_mono below
    rw [nearestEven_intCast, ← isNearest] at steps
    exact_mod_cast steps
  have full :
      2 ^ spec.mantissaBitsWithoutImplicit ≤ nearest ∨
        target = spec.minExponent := by
    by_cases isFinest : target = spec.minExponent
    · exact .inr isFinest
    · have notZero : mantissa ≠ 0 := by
        intro isZero
        have finestExponent := finest isZero
        rw [isZero, Nat.log2_zero] at isMax
        omega
      have above :
          (2 ^ spec.mantissaBitsWithoutImplicit : ℤ) ≤
            exact * 2 ^ exponent / 2 ^ target := by
        exact_mod_cast described.le_scaled notZero (by omega)
      have steps := nearestEven_mono above
      rw [nearestEven_intCast, ← isNearest] at steps
      exact .inl (by exact_mod_cast steps)
  rw [rounded_signed sign (by positivity), sameMagnitude]
  exact carried_denotes atMost (by omega) full sign

theorem log2_shiftLeft
    {mantissa : Nat}
    (notZero : mantissa ≠ 0)
    (places : Nat) :
    (mantissa <<< places).log2 = mantissa.log2 + places := by
  have pos : 0 < 2 ^ places := by positivity
  have shifted : mantissa <<< places ≠ 0 := by
    rw [Nat.shiftLeft_eq]
    positivity
  have lower := Nat.log2_self_le notZero
  have upper : mantissa < 2 ^ (mantissa.log2 + 1) := Nat.lt_log2_self
  rw [Nat.log2_eq_iff shifted, Nat.shiftLeft_eq, Nat.pow_add, add_right_comm,
    Nat.pow_add]
  exact ⟨Nat.mul_le_mul_right _ lower, Nat.mul_lt_mul_of_pos_right upper pos⟩

/-- A mantissa is made longer and its exponent smaller by the same number. -/
theorem shiftLeft_mul_zpow
    (mantissa places : Nat)
    (exponent : ℤ) :
    ((mantissa <<< places : Nat) * 2 ^ (exponent - places) : ℚ) =
      mantissa * 2 ^ exponent := by
  have split : (2 : ℚ) ^ exponent = 2 ^ places * 2 ^ (exponent - places) := by
    rw [← zpow_natCast, ← zpow_add₀ (by decide)]
    congr 1
    omega
  rw [split, Nat.shiftLeft_eq]
  push_cast
  ring

/-- A finite number is rounded to the grid of its magnitude. -/
theorem round_denotes
    {mantissa : Nat}
    (notZero : mantissa ≠ 0)
    (sign : Sign)
    (exponent : ℤ) :
    Denotes spec (rounded spec (signed sign (mantissa * 2 ^ exponent)))
      (round spec sign mantissa exponent) := by
  generalize isTarget :
    spec.targetExponent (totalExponent mantissa exponent) = target
  generalize isPlaces : (exponent - target).toNat = places
  have sameTarget :
      spec.targetExponent
        (totalExponent (mantissa <<< places) (exponent - places)) = target := by
    rw [← isTarget]
    unfold totalExponent
    rw [log2_shiftLeft notZero]
    push_cast
    ring_nf
  have stillNotZero : mantissa <<< places ≠ 0 := by
    rw [Nat.shiftLeft_eq]
    positivity
  have unfolded :
      round spec sign mantissa exponent =
        roundWithAccuracy spec sign (mantissa <<< places) (exponent - places)
          .exact := by
    rw [← isPlaces, ← isTarget]
    rfl
  have described :
      Describes .exact
        (((mantissa <<< places : Nat) : ℚ) - (mantissa <<< places : Nat)) :=
    sub_self _
  have fine :
      exponent - places ≤
        spec.targetExponent
          (totalExponent (mantissa <<< places) (exponent - places)) := by
    rw [sameTarget]
    omega
  rw [unfolded, ← shiftLeft_mul_zpow mantissa places exponent]
  exact roundWithAccuracy_denotes described fine
    (fun isZero => absurd isZero stillNotZero) sign

end Polyphony.Number
