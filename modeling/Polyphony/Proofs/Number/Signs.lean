import Polyphony.Proofs.Number.Operands

namespace Polyphony.Number

/-!
# Signs and zeros of results

Products, quotients and conversions of what is not negative are not negative
either.  A product with a zero is a zero, and one with a factor of at most one
is finite where the other factor is.
-/

open Float.Model (Format UnpackedFloat)
open Float.Model.UnpackedFloat
open FloatingPoint (spec unpack)

theorem isFinite_of_div
    {format : Format}
    {first second : UnpackedFloat}
    (finite : (div format first second).isFinite = true)
    (secondFinite : second.isFinite = true) :
    first.isFinite = true := by
  cases first with
  | notANumber => exact absurd finite Bool.false_ne_true
  | infinity sign =>
      cases second with
      | infinity otherSign => exact absurd secondFinite Bool.false_ne_true
      | notANumber => exact absurd secondFinite Bool.false_ne_true
      | _ => exact absurd finite Bool.false_ne_true
  | _ => rfl

section Machine

variable {Value : Type} [Add Value] [Sub Value] [Mul Value] [Div Value]
  [LT Value] [LE Value] [FloatingPoint Value]
  {first second : Value} {exact other result : ℚ}

/-- A finite quotient by a finite divisor is the exact one, rounded. -/
theorem Is.eq_of_div
    (isSecond : Is second other)
    (notZero : other ≠ 0)
    (isQuotient : Is (first / second) result) :
    ∃ exact, Is first exact ∧ result = rounded (spec Value) (exact / other) := by
  have finite := Denotes.isFinite isQuotient
  rw [FloatingPoint.unpack_div] at finite
  obtain ⟨exact, isFirst⟩ :=
    exists_is
      (isFinite_of_div (isFinite_of_stored finite) (Denotes.isFinite isSecond))
  unfold Is at isQuotient
  rw [FloatingPoint.unpack_div] at isQuotient
  exact ⟨exact, isFirst,
    eq_of_stored_denotes FloatingPoint.wide
      (Denotes.div isFirst isSecond notZero) isQuotient⟩

/-- Whether a value is finite or not, it is no negative number. -/
def NotNegative (value : Value) : Prop :=
  ∀ exact, Is value exact → 0 ≤ exact

theorem NotNegative.mul
    (isFirst : NotNegative first)
    (isSecond : NotNegative second) :
    NotNegative (first * second) := by
  intro result isProduct
  obtain ⟨⟨exact, isExact⟩, other, isOther⟩ := isProduct.operands_of_mul
  rw [isExact.eq_of_mul isOther isProduct]
  exact rounded_nonneg
    (mul_nonneg (isFirst exact isExact) (isSecond other isOther))

theorem NotNegative.div
    (isFirst : NotNegative first)
    (isSecond : Is second other)
    (positive : 0 < other) :
    NotNegative (first / second) := by
  intro result isQuotient
  obtain ⟨exact, isExact, isRounded⟩ :=
    isSecond.eq_of_div positive.ne' isQuotient
  rw [isRounded]
  exact rounded_nonneg (div_nonneg (isFirst exact isExact) positive.le)

theorem Is.mul_eq_zero
    (isFirst : Is first exact)
    (isSecond : Is second other)
    (zero : exact * other = 0) :
    Is (first * second) 0 := by
  have inRange : |exact * other| ≤ limit (spec Value) := by
    rw [zero, abs_zero]
    unfold limit
    positivity
  have product := isFirst.mul isSecond inRange
  rwa [zero, rounded_zero] at product

/-- A factor of at most one leaves a finite product. -/
theorem Is.exists_mul
    (isFirst : Is first exact)
    (isSecond : Is second other)
    (small : |other| ≤ 1) :
    ∃ product, Is (first * second) product := by
  have within : |exact * other| ≤ |exact| := by
    rw [abs_mul]
    exact mul_le_of_le_one_right (abs_nonneg exact) small
  exact ⟨_,
    isFirst.mul_within isSecond (Denotes.representable isFirst).abs
      isFirst.abs_lt_overflow within⟩

/-- What lies between two finite numbers is finite. -/
theorem exists_is_between
    {low high value : Value}
    {least greatest : ℚ}
    (isLow : Is low least)
    (isHigh : Is high greatest)
    (above : low ≤ value)
    (below : value ≤ high) :
    ∃ exact, Is value exact ∧ least ≤ exact ∧ exact ≤ greatest := by
  suffices finite : ∃ exact, Is value exact by
    obtain ⟨exact, isExact⟩ := finite
    exact ⟨exact, isExact, (isLow.le_iff isExact).mp above,
      (isExact.le_iff isHigh).mp below⟩
  rw [FloatingPoint.le_iff] at above below
  unfold Is at isLow isHigh
  generalize unpack low = lowNumber at isLow above
  generalize unpack high = highNumber at isHigh below
  cases parts : unpack value with
  | notANumber =>
      rw [parts] at below
      cases isHigh <;> exact absurd below Bool.false_ne_true
  | infinity sign =>
      rw [parts] at above below
      cases sign with
      | positive => cases isHigh <;> exact absurd below Bool.false_ne_true
      | negative => cases isLow <;> exact absurd above Bool.false_ne_true
  | zero sign => exact exists_is (by rw [parts]; rfl)
  | finite sign mantissa exponent pos => exact exists_is (by rw [parts]; rfl)

end Machine

/-- A whole number is not negative, however great it is. -/
theorem Double.notNegative_ofNat (whole : Nat) :
    NotNegative (Float.ofNat whole) := by
  intro exact isExact
  have wholeNonneg : (0 : ℚ) ≤ whole := Nat.cast_nonneg whole
  by_cases inRange : (whole : ℚ) ≤ limit (spec Float)
  · rw [isExact.unique (is_ofNat inRange)]
    exact rounded_nonneg wholeNonneg
  · have long : ¬ whole < 2 ^ 53 := fun short =>
      inRange (le_limit_of_le (by decide) short.le)
    have parts :
        unpack (Float.ofNat whole) =
          stored (spec Float) (ofScientific (spec Float) whole 0) := by
      change unpack (Float.ofScientific whole false 0) = _
      unfold Float.ofScientific
      rw [dif_neg fun both => long both.1]
      rfl
    unfold Is at isExact
    rw [parts] at isExact
    rw [eq_of_stored_denotes FloatingPoint.wide
      (ofScientific_denotes (by omega)) isExact]
    exact rounded_nonneg wholeNonneg

end Polyphony.Number
