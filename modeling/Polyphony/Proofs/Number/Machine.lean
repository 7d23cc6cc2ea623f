import Polyphony.Proofs.Number.Order
import Polyphony.Number.Rounding

namespace Polyphony.Number

/-!
# Machine numbers

Single and double precision numbers are packed numbers of two formats, and both
compute by unpacking, rounding and packing.  What follows holds of either: each
operation whose exact result is not beyond the range gives the number nearest to
that result, and numbers are ordered as the rational numbers they are.
-/

open Float.Model (Format UnpackedFloat)
open Float.Model.UnpackedFloat

/-! ## The range of a format -/

/-- The least magnitude that is beyond the range of a format. -/
def overflow (spec : Format) : ℚ :=
  2 ^ (spec.exponentBias + 1 : ℤ)

/-- The greatest power of two within the range of a format. -/
def limit (spec : Format) : ℚ :=
  2 ^ (spec.exponentBias : ℤ)

theorem limit_lt_overflow (spec : Format) :
    limit spec < overflow spec :=
  zpow_lt_zpow_right₀ (by decide) (by omega)

theorem limit_representable (spec : Format) :
    Representable spec (limit spec) := by
  have finest := minExponent_nonpos spec
  exact .zpow (by omega)

/-- What has a greater exponent than the greatest is beyond the range. -/
theorem CanonicalForm.overflow_le
    {spec : Format}
    (wide : 2 ≤ spec.exponentBits)
    {mantissa : Nat}
    {exponent : ℤ}
    (canonical : CanonicalForm spec mantissa exponent)
    (beyond : maxExponent spec < exponent) :
    overflow spec ≤ mantissa * 2 ^ exponent := by
  have notFinest : exponent ≠ spec.minExponent := by
    have bias := one_le_exponentBias wide
    have finest := minExponent_eq spec
    unfold maxExponent at beyond
    omega
  have full : (2 : ℚ) ^ (spec.mantissaBitsWithoutImplicit : ℤ) ≤ mantissa := by
    rw [zpow_natCast]
    exact_mod_cast canonical.full.resolve_right notFinest
  have sizes :
      (spec.exponentBias + 1 : ℤ) ≤
        spec.mantissaBitsWithoutImplicit + exponent := by
    unfold maxExponent at beyond
    omega
  calc
    overflow spec ≤ 2 ^ (spec.mantissaBitsWithoutImplicit + exponent : ℤ) :=
      zpow_le_zpow_right₀ (by decide) sizes
    _ = 2 ^ (spec.mantissaBitsWithoutImplicit : ℤ) * 2 ^ exponent := by
      rw [zpow_add₀ (by decide)]
    _ ≤ mantissa * 2 ^ exponent :=
      mul_le_mul_of_nonneg_right full (by positivity)

/-- What is stored of a finite number: itself, or an infinity of its sign. -/
theorem stored_eq
    {spec : Format}
    (wide : 2 ≤ spec.exponentBits)
    {exact : ℚ}
    {number : UnpackedFloat}
    (denotes : Denotes spec exact number) :
    (|exact| < overflow spec ∧ stored spec number = number) ∨
      (overflow spec ≤ exact ∧ stored spec number = .infinity .positive) ∨
      (exact ≤ -overflow spec ∧ stored spec number = .infinity .negative) := by
  cases denotes with
  | zero sign =>
      refine .inl ⟨?_, stored_zero spec sign⟩
      rw [abs_zero]
      unfold overflow
      positivity
  | @finite mantissa exponent canonical sign pos =>
      by_cases inRange : exponent ≤ maxExponent spec
      · refine .inl ⟨?_, stored_of_le canonical inRange sign pos⟩
        have fits : (mantissa : ℚ) < 2 ^ (spec.mantissaBits : ℤ) := by
          rw [zpow_natCast]
          exact_mod_cast canonical.fits
        have sizes : spec.mantissaBits + exponent ≤ spec.exponentBias + 1 := by
          unfold maxExponent at inRange
          unfold Format.mantissaBits
          omega
        rw [abs_signed, abs_of_nonneg (by positivity)]
        calc
          (mantissa * 2 ^ exponent : ℚ) <
              2 ^ (spec.mantissaBits : ℤ) * 2 ^ exponent :=
            mul_lt_mul_of_pos_right fits (by positivity)
          _ = 2 ^ (spec.mantissaBits + exponent) := by
            rw [← zpow_add₀ (by decide)]
          _ ≤ overflow spec := zpow_le_zpow_right₀ (by decide) sizes
      · have beyond := not_le.mp inRange
        have stores := stored_of_gt beyond sign mantissa pos
        have tooGreat := canonical.overflow_le wide beyond
        cases sign with
        | negative => exact .inr (.inr ⟨neg_le_neg tooGreat, stores⟩)
        | positive => exact .inr (.inl ⟨tooGreat, stores⟩)

/-- What is no greater than a number of the format is stored as it is rounded. -/
theorem stored_denotes_within
    {spec : Format}
    (wide : 2 ≤ spec.exponentBits)
    {exact bound : ℚ}
    {number : UnpackedFloat}
    (denotes : Denotes spec (rounded spec exact) number)
    (representable : Representable spec bound)
    (inRange : bound < overflow spec)
    (within : |exact| ≤ bound) :
    Denotes spec (rounded spec exact) (stored spec number) := by
  have less := lt_of_le_of_lt (representable.abs_rounded_le within) inRange
  rcases stored_eq wide denotes with ⟨-, same⟩ | ⟨above, -⟩ | ⟨below, -⟩
  · rwa [same]
  · exact absurd (abs_lt.mp less).2 (not_lt.mpr above)
  · exact absurd (abs_lt.mp less).1 (not_lt.mpr below)

/-- What is within the range when it is rounded is stored. -/
theorem stored_denotes
    {spec : Format}
    (wide : 2 ≤ spec.exponentBits)
    {exact : ℚ}
    {number : UnpackedFloat}
    (denotes : Denotes spec (rounded spec exact) number)
    (inRange : |exact| ≤ limit spec) :
    Denotes spec (rounded spec exact) (stored spec number) :=
  stored_denotes_within wide denotes (limit_representable spec)
    (limit_lt_overflow spec) inRange

/-! ## Formats of machine numbers -/

/-- Numbers that compute as the packed numbers of a format. -/
class FloatingPoint
    (Value : Type)
    [Add Value]
    [Sub Value]
    [Mul Value]
    [Div Value]
    [LT Value]
    [LE Value] where
  spec : Format
  wide : 2 ≤ spec.exponentBits
  unpack : Value → UnpackedFloat
  stored_unpack : ∀ value, stored spec (unpack value) = unpack value
  unpack_add : ∀ first second,
    unpack (first + second) = stored spec (add spec (unpack first) (unpack second))
  unpack_sub : ∀ first second,
    unpack (first - second) = stored spec (sub spec (unpack first) (unpack second))
  unpack_mul : ∀ first second,
    unpack (first * second) = stored spec (mul spec (unpack first) (unpack second))
  unpack_div : ∀ first second,
    unpack (first / second) = stored spec (div spec (unpack first) (unpack second))
  lt_iff : ∀ first second, first < second ↔ (unpack first).lt (unpack second) = true
  le_iff : ∀ first second, first ≤ second ↔ (unpack first).le (unpack second) = true

instance : FloatingPoint Float32 where
  spec := .binary32
  wide := by decide
  unpack := fun value => value.toModel.unpack
  stored_unpack := fun value => stored_unpack (by decide) value.toModel.valid
  unpack_add := fun _ _ => rfl
  unpack_sub := fun _ _ => rfl
  unpack_mul := fun _ _ => rfl
  unpack_div := fun _ _ => rfl
  lt_iff := fun _ _ => decide_eq_true_iff
  le_iff := fun _ _ => decide_eq_true_iff

instance : FloatingPoint Float where
  spec := .binary64
  wide := by decide
  unpack := fun value => value.toModel.unpack
  stored_unpack := fun value => stored_unpack (by decide) value.toModel.valid
  unpack_add := fun _ _ => rfl
  unpack_sub := fun _ _ => rfl
  unpack_mul := fun _ _ => rfl
  unpack_div := fun _ _ => rfl
  lt_iff := fun _ _ => decide_eq_true_iff
  le_iff := fun _ _ => decide_eq_true_iff

section Machine

variable {Value : Type} [Add Value] [Sub Value] [Mul Value] [Div Value]
  [LT Value] [LE Value] [FloatingPoint Value]

open FloatingPoint (spec unpack)

/-- A machine number is finite, and is this rational number. -/
def Is
    (value : Value)
    (exact : ℚ) : Prop :=
  Denotes (spec Value) exact (unpack value)

variable {first second value : Value} {exact other : ℚ}

theorem FloatingPoint.canonical (value : Value) :
    Canonical (spec Value) (unpack value) := by
  rw [← FloatingPoint.stored_unpack]
  exact canonical_unpack FloatingPoint.wide _

theorem exists_is (finite : (unpack value).isFinite = true) :
    ∃ exact, Is value exact :=
  exists_denotes (FloatingPoint.canonical value) finite

theorem Is.unique
    (isExact : Is value exact)
    (isOther : Is value other) :
    exact = other :=
  Denotes.unique isExact isOther

/-- A number that is zero is one of the two zeros. -/
theorem zero_parts (isZero : Is value 0) :
    ∃ sign, unpack value = .zero sign := by
  unfold Is at isZero
  generalize unpack value = number at isZero
  generalize isExact : (0 : ℚ) = exact at isZero
  cases isZero with
  | zero sign => exact ⟨sign, rfl⟩
  | @finite mantissa exponent canonical sign pos =>
      have magnitude : (0 : ℚ) < mantissa * 2 ^ exponent := by positivity
      have notZero := abs_pos.mpr magnitude.ne'
      rw [← abs_signed sign, ← isExact, abs_zero] at notZero
      exact absurd notZero (lt_irrefl 0)

/-- A machine number is within the range of its format. -/
theorem Is.abs_lt_overflow (isExact : Is value exact) :
    |exact| < overflow (spec Value) := by
  have finite := Denotes.isFinite isExact
  have kept := FloatingPoint.stored_unpack value
  rcases stored_eq FloatingPoint.wide isExact with
    ⟨small, -⟩ | ⟨-, isInfinity⟩ | ⟨-, isInfinity⟩
  · exact small
  · rw [← kept, isInfinity] at finite
    cases finite
  · rw [← kept, isInfinity] at finite
    cases finite

theorem Is.add
    (isFirst : Is first exact)
    (isSecond : Is second other)
    (inRange : |exact + other| ≤ limit (spec Value)) :
    Is (first + second) (rounded (spec Value) (exact + other)) := by
  unfold Is
  rw [FloatingPoint.unpack_add]
  exact stored_denotes FloatingPoint.wide (Denotes.add isFirst isSecond)
    inRange

theorem Is.sub
    (isFirst : Is first exact)
    (isSecond : Is second other)
    (inRange : |exact - other| ≤ limit (spec Value)) :
    Is (first - second) (rounded (spec Value) (exact - other)) := by
  unfold Is
  rw [FloatingPoint.unpack_sub]
  exact stored_denotes FloatingPoint.wide (Denotes.sub isFirst isSecond)
    inRange

theorem Is.mul
    (isFirst : Is first exact)
    (isSecond : Is second other)
    (inRange : |exact * other| ≤ limit (spec Value)) :
    Is (first * second) (rounded (spec Value) (exact * other)) := by
  unfold Is
  rw [FloatingPoint.unpack_mul]
  exact stored_denotes FloatingPoint.wide (Denotes.mul isFirst isSecond)
    inRange

theorem Is.div
    (isFirst : Is first exact)
    (isSecond : Is second other)
    (notZero : other ≠ 0)
    (inRange : |exact / other| ≤ limit (spec Value)) :
    Is (first / second) (rounded (spec Value) (exact / other)) := by
  unfold Is
  rw [FloatingPoint.unpack_div]
  exact stored_denotes FloatingPoint.wide
    (Denotes.div isFirst isSecond notZero) inRange

theorem Is.lt_iff
    (isFirst : Is first exact)
    (isSecond : Is second other) :
    first < second ↔ exact < other :=
  (FloatingPoint.lt_iff first second).trans (Denotes.lt_iff isFirst isSecond)

theorem Is.le_iff
    (isFirst : Is first exact)
    (isSecond : Is second other) :
    first ≤ second ↔ exact ≤ other :=
  (FloatingPoint.le_iff first second).trans (Denotes.le_iff isFirst isSecond)

end Machine

end Polyphony.Number
