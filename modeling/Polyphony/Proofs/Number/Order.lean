import Polyphony.Proofs.Number.Arithmetic

namespace Polyphony.Number

/-!
# The order of machine numbers

Two numbers in the form of a format are compared by their exponents first and by
their mantissas then.  That is the order of the rational numbers they denote,
since a greater exponent comes with a full mantissa.
-/

open Float.Model (Format UnpackedFloat)
open Float.Model.UnpackedFloat

variable {spec : Format}

/-- Of two numbers in the form of a format the greater exponent is greater. -/
theorem CanonicalForm.lt_of_exponent_lt
    {mantissa other : Nat}
    {exponent otherExponent : ℤ}
    (canonical : CanonicalForm spec mantissa exponent)
    (canonicalOther : CanonicalForm spec other otherExponent)
    (less : exponent < otherExponent) :
    (mantissa * 2 ^ exponent : ℚ) < other * 2 ^ otherExponent := by
  have double := two_pow_mantissaBits spec
  have notFinest : otherExponent ≠ spec.minExponent := by
    have fine := canonical.fine
    omega
  have full := canonicalOther.full.resolve_right notFinest
  have half : mantissa < 2 * other := by
    have fits := canonical.fits
    omega
  have halfCast : (mantissa : ℚ) < 2 * other := by exact_mod_cast half
  calc
    (mantissa * 2 ^ exponent : ℚ) < 2 * other * 2 ^ exponent :=
      mul_lt_mul_of_pos_right halfCast (by positivity)
    _ = other * 2 ^ (exponent + 1) := by
      rw [zpow_add₀ (by decide), zpow_one]
      ring
    _ ≤ other * 2 ^ otherExponent :=
      mul_le_mul_of_nonneg_left
        (zpow_le_zpow_right₀ (by decide) less) (by positivity)

/-- Exponents and then mantissas are in the order of the magnitudes. -/
theorem CanonicalForm.compare_eq
    {mantissa other : Nat}
    {exponent otherExponent : ℤ}
    (canonical : CanonicalForm spec mantissa exponent)
    (canonicalOther : CanonicalForm spec other otherExponent) :
    (compare exponent otherExponent).then (compare mantissa other) =
      compare (mantissa * 2 ^ exponent : ℚ) (other * 2 ^ otherExponent) := by
  rcases lt_trichotomy exponent otherExponent with less | equal | more
  · have lessMagnitude := canonical.lt_of_exponent_lt canonicalOther less
    rw [compare_lt_iff_lt.mpr less, compare_lt_iff_lt.mpr lessMagnitude]
    rfl
  · subst equal
    have pos : (0 : ℚ) < 2 ^ exponent := by positivity
    rw [compare_eq_iff_eq.mpr (rfl : exponent = exponent)]
    change compare mantissa other = _
    rcases lt_trichotomy mantissa other with less | equal | more
    · have lessMagnitude :
          (mantissa * 2 ^ exponent : ℚ) < other * 2 ^ exponent :=
        mul_lt_mul_of_pos_right (by exact_mod_cast less) pos
      rw [compare_lt_iff_lt.mpr less, compare_lt_iff_lt.mpr lessMagnitude]
    · subst equal
      rw [compare_eq_iff_eq.mpr rfl, compare_eq_iff_eq.mpr rfl]
    · have moreMagnitude :
          (other * 2 ^ exponent : ℚ) < mantissa * 2 ^ exponent :=
        mul_lt_mul_of_pos_right (by exact_mod_cast more) pos
      rw [compare_gt_iff_gt.mpr more, compare_gt_iff_gt.mpr moreMagnitude]
  · have moreMagnitude := canonicalOther.lt_of_exponent_lt canonical more
    rw [compare_gt_iff_gt.mpr more, compare_gt_iff_gt.mpr moreMagnitude]
    rfl

theorem swap_compare
    (magnitude other : ℚ) :
    (compare magnitude other).swap = compare (-magnitude) (-other) := by
  rcases lt_trichotomy magnitude other with less | equal | more
  · rw [compare_lt_iff_lt.mpr less, compare_gt_iff_gt.mpr (neg_lt_neg less)]
    rfl
  · rw [equal, compare_eq_iff_eq.mpr rfl, compare_eq_iff_eq.mpr rfl]
    rfl
  · rw [compare_gt_iff_gt.mpr more, compare_lt_iff_lt.mpr (neg_lt_neg more)]
    rfl

/-- Finite numbers are compared as the rational numbers that they denote. -/
theorem Denotes.compare_eq
    {exact other : ℚ}
    {first second : UnpackedFloat}
    (denotesFirst : Denotes spec exact first)
    (denotesSecond : Denotes spec other second) :
    UnpackedFloat.compare first second = some (compare exact other) := by
  cases denotesFirst with
  | zero sign =>
      cases denotesSecond with
      | zero otherSign =>
          rw [compare_eq_iff_eq.mpr rfl]
          rfl
      | @finite otherMantissa otherExponent canonicalOther otherSign otherPos =>
          have magnitude : (0 : ℚ) < otherMantissa * 2 ^ otherExponent := by
            positivity
          cases otherSign with
          | negative =>
              rw [signed_negative, compare_gt_iff_gt.mpr (neg_neg_of_pos magnitude)]
              rfl
          | positive =>
              rw [signed_positive, compare_lt_iff_lt.mpr magnitude]
              rfl
  | @finite mantissa exponent canonical sign pos =>
      have magnitude : (0 : ℚ) < mantissa * 2 ^ exponent := by positivity
      cases denotesSecond with
      | zero otherSign =>
          cases sign with
          | negative =>
              rw [signed_negative, compare_lt_iff_lt.mpr (neg_neg_of_pos magnitude)]
              rfl
          | positive =>
              rw [signed_positive, compare_gt_iff_gt.mpr magnitude]
              rfl
      | @finite otherMantissa otherExponent canonicalOther otherSign otherPos =>
          have otherMagnitude :
              (0 : ℚ) < otherMantissa * 2 ^ otherExponent := by
            positivity
          have magnitudes := canonical.compare_eq canonicalOther
          cases sign with
          | negative =>
              cases otherSign with
              | negative =>
                  rw [signed_negative, signed_negative, ← swap_compare,
                    ← magnitudes]
                  rfl
              | positive =>
                  have less := lt_trans (neg_neg_of_pos magnitude) otherMagnitude
                  rw [signed_negative, signed_positive,
                    compare_lt_iff_lt.mpr less]
                  rfl
          | positive =>
              cases otherSign with
              | negative =>
                  have more := lt_trans (neg_neg_of_pos otherMagnitude) magnitude
                  rw [signed_negative, signed_positive,
                    compare_gt_iff_gt.mpr more]
                  rfl
              | positive =>
                  rw [signed_positive, signed_positive, ← magnitudes]
                  rfl

theorem Denotes.lt_iff
    {exact other : ℚ}
    {first second : UnpackedFloat}
    (denotesFirst : Denotes spec exact first)
    (denotesSecond : Denotes spec other second) :
    first.lt second = true ↔ exact < other := by
  unfold UnpackedFloat.lt
  rw [denotesFirst.compare_eq denotesSecond]
  rcases lt_trichotomy exact other with less | equal | more
  · simp [compare_lt_iff_lt.mpr less, less]
  · simp [equal]
  · simp [compare_gt_iff_gt.mpr more, more.le]

theorem Denotes.le_iff
    {exact other : ℚ}
    {first second : UnpackedFloat}
    (denotesFirst : Denotes spec exact first)
    (denotesSecond : Denotes spec other second) :
    first.le second = true ↔ exact ≤ other := by
  unfold UnpackedFloat.le
  rw [denotesFirst.compare_eq denotesSecond]
  rcases lt_trichotomy exact other with less | equal | more
  · simp [compare_lt_iff_lt.mpr less, less.le]
  · simp [equal]
  · simp [compare_gt_iff_gt.mpr more, more]

/-! ## Numbers that are not finite -/

@[simp] theorem notANumber_lt (number : UnpackedFloat) :
    UnpackedFloat.lt .notANumber number = false := by
  cases number <;> rfl

@[simp] theorem lt_notANumber (number : UnpackedFloat) :
    UnpackedFloat.lt number .notANumber = false := by
  cases number <;> rfl

/-- Nothing is greater than infinity. -/
@[simp] theorem infinity_lt (number : UnpackedFloat) :
    UnpackedFloat.lt (.infinity .positive) number = false := by
  cases number with
  | infinity sign => cases sign <;> rfl
  | notANumber => rfl
  | zero sign => rfl
  | finite sign mantissa exponent pos => rfl

/-- Nothing is less than the negative infinity. -/
@[simp] theorem lt_negativeInfinity (number : UnpackedFloat) :
    UnpackedFloat.lt number (.infinity .negative) = false := by
  cases number with
  | infinity sign => cases sign <;> rfl
  | notANumber => rfl
  | zero sign => rfl
  | finite sign mantissa exponent pos => rfl

/-- The negative infinity is less than every finite number. -/
theorem Denotes.negativeInfinity_lt
    {exact : ℚ}
    {number : UnpackedFloat}
    (denotes : Denotes spec exact number) :
    UnpackedFloat.lt (.infinity .negative) number = true := by
  cases denotes <;> rfl

end Polyphony.Number
