import Polyphony.Proofs.Number.Nearest

namespace Polyphony.Number

/-!
# Ranges of machine numbers

Numbers whose magnitudes are bounded by powers of two have sums and products
that are bounded so, and that are finite as long as the bounds are.  A sum of
finite numbers is never a NaN, and what is restricted to an interval lies in it.
-/

open Float.Model (Format UnpackedFloat)
open Float.Model.UnpackedFloat
open FloatingPoint (spec unpack)

/-! ## Bounds that are powers of two -/

/-- A value is finite, and at most two to a power in magnitude. -/
def Within
    (bits : Nat)
    (value : Float32) : Prop :=
  ∃ exact, Is value exact ∧ |exact| ≤ 2 ^ bits

theorem within_of_parts
    {value : Float32}
    {sign : Sign}
    {mantissa : Nat}
    {exponent : ℤ}
    {pos : 0 < mantissa}
    {bits : Nat}
    (parts : unpack value = .finite sign mantissa exponent pos)
    (small : (mantissa * 2 ^ exponent : ℚ) ≤ 2 ^ bits) :
    Within bits value := by
  refine ⟨_, is_of_unpack parts, ?_⟩
  rw [abs_signed, abs_of_nonneg (by positivity)]
  exact small

/-- A value is a number from zero to one. -/
def InUnit (value : Float32) : Prop :=
  ∃ exact, Is value exact ∧ 0 ≤ exact ∧ exact ≤ 1

theorem within_zero_iff {value : Float32} :
    Within 0 value ↔ ∃ exact, Is value exact ∧ |exact| ≤ 1 := by
  simp only [Within, pow_zero]

theorem two_pow_le_limit
    {bits : Nat}
    (inRange : bits ≤ 127) :
    (2 : ℚ) ^ bits ≤ limit (spec Float32) := by
  rw [Single.limit_eq]
  exact pow_le_pow_right₀ (by norm_num) inRange

namespace Within

variable {bits more : Nat} {first second value : Float32}

theorem finite (within : Within bits value) :
    ∃ exact, Is value exact :=
  within.imp fun _ both => both.1

theorem mono
    (within : Within bits value)
    (wider : bits ≤ more) :
    Within more value := by
  obtain ⟨exact, isExact, small⟩ := within
  exact ⟨exact, isExact, small.trans (pow_le_pow_right₀ (by norm_num) wider)⟩

theorem add
    (isFirst : Within bits first)
    (isSecond : Within bits second)
    (inRange : bits + 1 ≤ 127) :
    Within (bits + 1) (first + second) := by
  obtain ⟨exact, isExact, small⟩ := isFirst
  obtain ⟨other, isOther, otherSmall⟩ := isSecond
  have sum : |exact + other| ≤ 2 ^ (bits + 1) := by
    have triangle := abs_add_le exact other
    rw [pow_succ]
    linarith
  exact ⟨_, isExact.add isOther (sum.trans (two_pow_le_limit inRange)),
    (Representable.two_pow _).abs_rounded_le sum⟩

theorem sub
    (isFirst : Within bits first)
    (isSecond : Within bits second)
    (inRange : bits + 1 ≤ 127) :
    Within (bits + 1) (first - second) := by
  obtain ⟨exact, isExact, small⟩ := isFirst
  obtain ⟨other, isOther, otherSmall⟩ := isSecond
  have difference : |exact - other| ≤ 2 ^ (bits + 1) := by
    have triangle := abs_sub exact other
    rw [pow_succ]
    linarith
  exact ⟨_, isExact.sub isOther (difference.trans (two_pow_le_limit inRange)),
    (Representable.two_pow _).abs_rounded_le difference⟩

theorem mul
    (isFirst : Within bits first)
    (isSecond : Within more second)
    (inRange : bits + more ≤ 127) :
    Within (bits + more) (first * second) := by
  obtain ⟨exact, isExact, small⟩ := isFirst
  obtain ⟨other, isOther, otherSmall⟩ := isSecond
  have product : |exact * other| ≤ 2 ^ (bits + more) := by
    rw [abs_mul, pow_add]
    exact mul_le_mul small otherSmall (abs_nonneg other) (by positivity)
  exact ⟨_, isExact.mul isOther (product.trans (two_pow_le_limit inRange)),
    (Representable.two_pow _).abs_rounded_le product⟩

end Within

namespace InUnit

variable {first second value : Float32}

theorem within (inUnit : InUnit value) :
    Within 0 value := by
  obtain ⟨exact, isExact, nonneg, atMost⟩ := inUnit
  refine ⟨exact, isExact, ?_⟩
  rwa [pow_zero, abs_of_nonneg nonneg]

theorem finite (inUnit : InUnit value) :
    ∃ exact, Is value exact :=
  inUnit.within.finite

theorem mul
    (isFirst : InUnit first)
    (isSecond : InUnit second) :
    InUnit (first * second) := by
  obtain ⟨exact, isExact, nonneg, atMost⟩ := isFirst
  obtain ⟨other, isOther, otherNonneg, otherAtMost⟩ := isSecond
  have product : 0 ≤ exact * other := mul_nonneg nonneg otherNonneg
  have small : |exact * other| ≤ 1 := by
    rw [abs_of_nonneg product]
    exact mul_le_one₀ atMost otherNonneg otherAtMost
  have one : Representable (spec Float32) 1 := by
    simpa using Representable.two_pow 0
  have inRange : |exact * other| ≤ limit (spec Float32) :=
    small.trans (by simpa using two_pow_le_limit (Nat.zero_le 127))
  exact ⟨_, isExact.mul isOther inRange, rounded_nonneg product,
    (abs_le.mp (one.abs_rounded_le small)).2⟩

end InUnit

theorem is_zero : Is (0 : Float32) 0 := by
  have isWhole : Is (0 : Float32) (0 : ℕ) :=
    Single.is_ofNat_of_le (Nat.zero_le _)
  rwa [Nat.cast_zero] at isWhole

theorem is_one : Is (1 : Float32) 1 := by
  have isWhole : Is (1 : Float32) (1 : ℕ) := Single.is_ofNat_of_le (by decide)
  rwa [Nat.cast_one] at isWhole

theorem inUnit_zero : InUnit 0 :=
  ⟨0, is_zero, le_refl 0, zero_le_one⟩

theorem inUnit_one : InUnit 1 :=
  ⟨1, is_one, zero_le_one, le_refl 1⟩

/-! ## Sums that are not NaN, and intervals -/

theorem isNaN_stored
    {format : Format}
    (wide : 2 ≤ format.exponentBits)
    {exact : ℚ}
    {number : UnpackedFloat}
    (denotes : Denotes format exact number) :
    (stored format number).isNaN = false := by
  rcases stored_eq wide denotes with
    ⟨-, same⟩ | ⟨-, isInfinity⟩ | ⟨-, isInfinity⟩
  · rw [same]
    exact denotes.isNaN
  · rw [isInfinity]
    rfl
  · rw [isInfinity]
    rfl

/-- A sum of finite numbers is a number, if not always a finite one. -/
theorem Is.isNaN_add
    {first second : Float32}
    {exact other : ℚ}
    (isFirst : Is first exact)
    (isSecond : Is second other) :
    (first + second).isNaN = false := by
  have denotes := Denotes.add isFirst isSecond
  have parts := FloatingPoint.unpack_add first second
  change (unpack (first + second)).isNaN = false
  rw [parts]
  exact isNaN_stored FloatingPoint.wide denotes

/-- Every finite number is less than infinity. -/
theorem Denotes.lt_infinity
    {format : Format}
    {exact : ℚ}
    {number : UnpackedFloat}
    (denotes : Denotes format exact number) :
    UnpackedFloat.lt number (.infinity .positive) = true := by
  cases denotes <;> rfl

theorem Is.clamp
    {low high value : Float32}
    {least greatest exact : ℚ}
    (isLow : Is low least)
    (isHigh : Is high greatest)
    (isExact : Is value exact) :
    Is (clamp low high value) (min (max exact least) greatest) := by
  have isRaised : Is (if value < low then low else value) (max exact least) := by
    have order := isExact.lt_iff isLow
    split
    · rename_i below
      rwa [max_eq_right (order.mp below).le]
    · rename_i notBelow
      rwa [max_eq_left (not_lt.mp (notBelow ∘ order.mpr))]
  unfold Number.clamp
  dsimp only
  generalize (if value < low then low else value) = raised at isRaised ⊢
  have order := isHigh.lt_iff isRaised
  split
  · rename_i above
    rwa [min_eq_right (order.mp above).le]
  · rename_i notAbove
    rwa [min_eq_left (not_lt.mp (notAbove ∘ order.mpr))]

/-- What is restricted to an interval lies in it, unless it is a NaN. -/
theorem clamp_between
    {low high value : Float32}
    {least greatest : ℚ}
    (isLow : Is low least)
    (isHigh : Is high greatest)
    (ordered : least ≤ greatest)
    (isNumber : value.isNaN = false) :
    ∃ exact,
      Is (clamp low high value) exact ∧ least ≤ exact ∧ exact ≤ greatest := by
  by_cases finite : (unpack value).isFinite = true
  · obtain ⟨exact, isExact⟩ := exists_is finite
    exact ⟨_, isLow.clamp isHigh isExact,
      le_min (le_max_right exact least) ordered, min_le_right _ greatest⟩
  · have notBeyond : ¬ low > high :=
      fun above => not_lt.mpr ordered ((isHigh.lt_iff isLow).mp above)
    cases parts : unpack value with
    | notANumber =>
        change (unpack value).isNaN = false at isNumber
        rw [parts] at isNumber
        cases isNumber
    | infinity sign =>
        cases sign with
        | positive =>
            have notBelow : ¬ value < low := by
              rw [FloatingPoint.lt_iff, parts, infinity_lt]
              exact Bool.false_ne_true
            have above : value > high := by
              refine (FloatingPoint.lt_iff high value).mpr ?_
              rw [parts]
              exact Denotes.lt_infinity isHigh
            refine ⟨greatest, ?_, ordered, le_refl greatest⟩
            simpa only [clamp, notBelow, if_false, above, if_true] using isHigh
        | negative =>
            have below : value < low := by
              rw [FloatingPoint.lt_iff, parts]
              exact Denotes.negativeInfinity_lt isLow
            refine ⟨least, ?_, le_refl least, ordered⟩
            simpa only [clamp, below, if_true, notBeyond, if_false] using isLow
    | zero sign =>
        rw [parts] at finite
        exact absurd rfl finite
    | finite sign mantissa exponent pos =>
        rw [parts] at finite
        exact absurd rfl finite

theorem clamp_inUnit
    {value : Float32}
    (isNumber : value.isNaN = false) :
    InUnit (clamp 0 1 value) :=
  clamp_between is_zero is_one zero_le_one isNumber

theorem within_clamp
    {value : Float32}
    (isNumber : value.isNaN = false) :
    Within 0 (clamp (-1) 1 value) := by
  obtain ⟨exact, isExact, least, greatest⟩ :=
    clamp_between is_one.neg is_one (by norm_num) isNumber
  exact within_zero_iff.mpr ⟨exact, isExact, abs_le.mpr ⟨least, greatest⟩⟩

end Polyphony.Number
