import Polyphony.Proofs.Number.Signs

namespace Polyphony.Number

/-!
# Infinity and what is no number

Infinity stays infinite when a finite number is added to it or taken from it.  It
has no remainder, and what is no number makes all that it enters no number.
-/

open Float.Model (Format UnpackedFloat)
open Float.Model.UnpackedFloat
open FloatingPoint (spec unpack)

/-! ## Unpacked numbers -/

section Unpacked

variable {format : Format} {exact : ℚ} {number : UnpackedFloat}

theorem Denotes.add_infinity (denotes : Denotes format exact number) :
    UnpackedFloat.add format number (.infinity .positive) = .infinity .positive := by
  cases denotes <;> rfl

theorem Denotes.infinity_sub (denotes : Denotes format exact number) :
    UnpackedFloat.sub format (.infinity .positive) number = .infinity .positive := by
  cases denotes <;> rfl

theorem Denotes.le_infinity (denotes : Denotes format exact number) :
    number.le (.infinity .positive) = true := by
  cases denotes with
  | zero sign => rfl
  | finite canonical sign pos => cases sign <;> rfl

theorem notANumber_add (number : UnpackedFloat) :
    UnpackedFloat.add format .notANumber number = .notANumber := by
  cases number <;> rfl

theorem add_notANumber (number : UnpackedFloat) :
    UnpackedFloat.add format number .notANumber = .notANumber := by
  cases number <;> rfl

theorem le_notANumber (number : UnpackedFloat) :
    UnpackedFloat.le number .notANumber = false := by
  cases number <;> rfl

theorem infinity_remainder (number : UnpackedFloat) :
    unpackedRemainder (.infinity .positive) number = .notANumber := by
  cases number <;> rfl

/-- What is at least zero is finite or the positive infinity. -/
theorem isFinite_or_infinity
    (sign : Sign)
    (atLeast : UnpackedFloat.le (.zero sign) number = true) :
    number.isFinite = true ∨ number = .infinity .positive := by
  cases number with
  | notANumber => exact absurd atLeast Bool.false_ne_true
  | infinity numberSign =>
      cases numberSign with
      | negative => exact absurd atLeast Bool.false_ne_true
      | positive => exact .inr rfl
  | zero numberSign => exact .inl rfl
  | finite numberSign mantissa exponent pos => exact .inl rfl

end Unpacked

/-! ## Machine numbers -/

section Machine

variable {Value : Type} [Add Value] [Sub Value] [Mul Value] [Div Value]
  [LT Value] [LE Value] [FloatingPoint Value]
  {first second : Value} {exact : ℚ}

/-- A value is the positive infinity. -/
def IsInfinite (value : Value) : Prop :=
  unpack value = .infinity .positive

/-- A value is no number. -/
def IsLost (value : Value) : Prop :=
  unpack value = .notANumber

theorem Is.add_infinite
    (isFirst : Is first exact)
    (infinite : IsInfinite second) :
    IsInfinite (first + second) := by
  unfold IsInfinite at infinite ⊢
  rw [FloatingPoint.unpack_add, infinite, Denotes.add_infinity isFirst,
    stored_infinity]

theorem IsInfinite.sub
    (infinite : IsInfinite first)
    (isSecond : Is second exact) :
    IsInfinite (first - second) := by
  unfold IsInfinite at infinite ⊢
  rw [FloatingPoint.unpack_sub, infinite, Denotes.infinity_sub isSecond,
    stored_infinity]

theorem Is.le_infinite
    (isFirst : Is first exact)
    (infinite : IsInfinite second) :
    first ≤ second := by
  rw [FloatingPoint.le_iff, infinite]
  exact Denotes.le_infinity isFirst

theorem IsLost.add_right
    (lost : IsLost first)
    (second : Value) :
    IsLost (first + second) := by
  unfold IsLost at lost ⊢
  rw [FloatingPoint.unpack_add, lost, notANumber_add, stored_notANumber]

theorem IsLost.add_left
    (lost : IsLost second)
    (first : Value) :
    IsLost (first + second) := by
  unfold IsLost at lost ⊢
  rw [FloatingPoint.unpack_add, lost, add_notANumber, stored_notANumber]

theorem IsLost.not_le
    (lost : IsLost second)
    (first : Value) :
    ¬ first ≤ second := by
  rw [FloatingPoint.le_iff, lost, le_notANumber]
  exact Bool.false_ne_true

theorem IsLost.not_is
    (lost : IsLost first)
    (exact : ℚ) :
    ¬ Is first exact := by
  intro isFirst
  unfold Is at isFirst
  rw [lost] at isFirst
  cases isFirst

end Machine

/-! ## Double precision -/

namespace Double

theorem is_zero : Is (0 : Float) 0 :=
  show Denotes (spec Float) 0 (.zero .positive) from .zero .positive

/-- What is at least zero is finite or the positive infinity. -/
theorem isFinite_or_isInfinite
    {value : Float}
    (atLeast : 0 ≤ value) :
    value.isFinite = true ∨ IsInfinite value := by
  rw [FloatingPoint.le_iff] at atLeast
  exact isFinite_or_infinity .positive atLeast

theorem isLost_remainder
    {value : Float}
    (infinite : IsInfinite value)
    (divisor : Float) :
    IsLost (remainder value divisor) := by
  unfold IsLost
  rw [unpack_remainder, infinite, infinity_remainder, stored_notANumber]

/-- The position that is no number is taken for the first of all. -/
theorem toUInt64_of_isLost
    {value : Float}
    (lost : IsLost value) :
    value.toUInt64.toNat = 0 := by
  have parts : value.toModel.unpack = .notANumber := lost
  have clamped :
      value.toUInt64 =
        .ofNatClamp (value.toModel.unpack.toInt 0 (UInt64.size - 1)).toNat :=
    rfl
  rw [clamped, parts]
  rfl

end Double

end Polyphony.Number
