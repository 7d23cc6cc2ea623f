import Mathlib.Algebra.Order.Field.Power
import Mathlib.Algebra.Order.Floor.Ring
import Mathlib.Algebra.Order.Ring.Abs
import Mathlib.Data.Int.Log
import Mathlib.Data.Rat.Floor
import Mathlib.Tactic.Linarith
import Mathlib.Tactic.Positivity
import Mathlib.Tactic.Ring

namespace Polyphony.Number

/-!
# Rounding of rational numbers

A format of machine numbers has a grid for each order of magnitude, and one that
is finest of all for the numbers near zero.  A rational number is rounded to the
nearest point of the grid of its magnitude.  Rounding keeps the order of numbers
and leaves alone those that the format has, so whatever lies between two numbers
of the format lies between them still when it is rounded.
-/

open Float.Model (Format)

/-! ## The nearest whole number -/

/-- The nearest whole number, a tie going to the even one. -/
def nearestEven (value : ℚ) : ℤ :=
  if value - ⌊value⌋ < 1 / 2 then
    ⌊value⌋
  else if 1 / 2 < value - ⌊value⌋ then
    ⌊value⌋ + 1
  else
    ⌊value⌋ + ⌊value⌋ % 2

theorem floor_le_nearestEven (value : ℚ) :
    ⌊value⌋ ≤ nearestEven value := by
  unfold nearestEven
  split
  · exact le_refl _
  · split
    · omega
    · omega

theorem nearestEven_le_floor_add_one (value : ℚ) :
    nearestEven value ≤ ⌊value⌋ + 1 := by
  unfold nearestEven
  split
  · omega
  · split
    · exact le_refl _
    · omega

@[simp] theorem nearestEven_intCast (whole : ℤ) :
    nearestEven whole = whole := by
  simp [nearestEven]

/-- Greater numbers are rounded to greater ones. -/
theorem nearestEven_mono
    {first second : ℚ}
    (ordered : first ≤ second) :
    nearestEven first ≤ nearestEven second := by
  have floors := Int.floor_le_floor ordered
  rcases lt_or_eq_of_le floors with below | same
  · calc
      nearestEven first ≤ ⌊first⌋ + 1 := nearestEven_le_floor_add_one first
      _ ≤ ⌊second⌋ := below
      _ ≤ nearestEven second := floor_le_nearestEven second
  · -- Between two neighbouring whole numbers only the parts beyond count.
    have parts : first - ⌊first⌋ ≤ second - ⌊second⌋ := by
      rw [same]
      linarith
    unfold nearestEven
    rw [same] at parts ⊢
    split_ifs with _ _ _ _ _ _ _ _
    all_goals first
      | omega
      | linarith

/-! ## The grid of a magnitude -/

/-- The exponent of the grid on which the numbers of a magnitude lie. -/
def gridExponent
    (spec : Format)
    (magnitude : ℚ) :
    ℤ :=
  max (Int.log 2 magnitude + 1 - spec.mantissaBits) spec.minExponent

/-- The nearest point of the grid of a magnitude. -/
def roundedMagnitude
    (spec : Format)
    (magnitude : ℚ) :
    ℚ :=
  nearestEven (magnitude / 2 ^ gridExponent spec magnitude) *
    2 ^ gridExponent spec magnitude

/-- The nearest number of a format, whose range is not limited. -/
def rounded
    (spec : Format)
    (value : ℚ) :
    ℚ :=
  if value < 0 then
    -roundedMagnitude spec (-value)
  else
    roundedMagnitude spec value

variable {spec : Format}

theorem two_le_mantissaBits (spec : Format) :
    2 ≤ spec.mantissaBits := by
  have some := spec.hm
  unfold Format.mantissaBits
  omega

theorem minExponent_nonpos (spec : Format) :
    spec.minExponent ≤ 0 := by
  have bits := two_le_mantissaBits spec
  have pos : (1 : ℤ) ≤ 2 ^ (spec.exponentBits - 1) := one_le_pow₀ (by decide)
  unfold Format.minExponent
  omega

/-- What is a whole number of steps of the grid is not changed. -/
theorem roundedMagnitude_of_multiple
    {magnitude : ℚ}
    {steps : ℤ}
    (multiple : magnitude = steps * 2 ^ gridExponent spec magnitude) :
    roundedMagnitude spec magnitude = magnitude := by
  have pos : (2 : ℚ) ^ gridExponent spec magnitude ≠ 0 := by positivity
  have division :
      magnitude / 2 ^ gridExponent spec magnitude = steps := by
    rw [div_eq_iff pos]
    exact multiple
  rw [roundedMagnitude, division, nearestEven_intCast]
  exact multiple.symm

/-- A power of two is a whole number of steps of every grid below it. -/
theorem exists_steps
    {grid exponent : ℤ}
    (below : grid ≤ exponent)
    (mantissa : ℤ) :
    ∃ steps : ℤ, (mantissa * 2 ^ exponent : ℚ) = steps * 2 ^ grid := by
  refine ⟨mantissa * 2 ^ (exponent - grid).toNat, ?_⟩
  have split : (2 : ℚ) ^ exponent = 2 ^ (exponent - grid).toNat * 2 ^ grid := by
    rw [← zpow_natCast, ← zpow_add₀ (by decide)]
    congr 1
    omega
  push_cast
  rw [split]
  ring

theorem roundedMagnitude_nonneg
    {magnitude : ℚ}
    (nonneg : 0 ≤ magnitude) :
    0 ≤ roundedMagnitude spec magnitude := by
  have scaled : 0 ≤ magnitude / 2 ^ gridExponent spec magnitude := by positivity
  have steps : 0 ≤ nearestEven (magnitude / 2 ^ gridExponent spec magnitude) :=
    le_trans (Int.floor_nonneg.mpr scaled) (floor_le_nearestEven _)
  unfold roundedMagnitude
  positivity

@[simp] theorem roundedMagnitude_zero (spec : Format) :
    roundedMagnitude spec 0 = 0 := by
  simp [roundedMagnitude, nearestEven]

/-- A magnitude below a power of two on its grid is not rounded beyond it. -/
theorem roundedMagnitude_le_zpow
    {magnitude : ℚ}
    {exponent : ℤ}
    (onGrid : gridExponent spec magnitude ≤ exponent)
    (below : magnitude ≤ 2 ^ exponent) :
    roundedMagnitude spec magnitude ≤ 2 ^ exponent := by
  obtain ⟨steps, isSteps⟩ := exists_steps onGrid 1
  rw [Int.cast_one, one_mul] at isSteps
  have pos : (0 : ℚ) < 2 ^ gridExponent spec magnitude := by positivity
  have fewer : magnitude / 2 ^ gridExponent spec magnitude ≤ steps := by
    rw [div_le_iff₀ pos, ← isSteps]
    exact below
  have roundedFewer := nearestEven_mono fewer
  rw [nearestEven_intCast] at roundedFewer
  rw [isSteps, roundedMagnitude]
  exact mul_le_mul_of_nonneg_right (by exact_mod_cast roundedFewer) pos.le

/-- A magnitude above a power of two on its grid is not rounded below it. -/
theorem zpow_le_roundedMagnitude
    {magnitude : ℚ}
    {exponent : ℤ}
    (onGrid : gridExponent spec magnitude ≤ exponent)
    (above : 2 ^ exponent ≤ magnitude) :
    2 ^ exponent ≤ roundedMagnitude spec magnitude := by
  obtain ⟨steps, isSteps⟩ := exists_steps onGrid 1
  rw [Int.cast_one, one_mul] at isSteps
  have pos : (0 : ℚ) < 2 ^ gridExponent spec magnitude := by positivity
  have more : (steps : ℚ) ≤ magnitude / 2 ^ gridExponent spec magnitude := by
    rw [le_div_iff₀ pos, ← isSteps]
    exact above
  have roundedMore := nearestEven_mono more
  rw [nearestEven_intCast] at roundedMore
  rw [isSteps, roundedMagnitude]
  exact mul_le_mul_of_nonneg_right (by exact_mod_cast roundedMore) pos.le

/-- Greater magnitudes are rounded to greater ones. -/
theorem roundedMagnitude_mono
    {first second : ℚ}
    (nonneg : 0 ≤ first)
    (ordered : first ≤ second) :
    roundedMagnitude spec first ≤ roundedMagnitude spec second := by
  rcases eq_or_lt_of_le nonneg with isZero | pos
  · rw [← isZero, roundedMagnitude_zero]
    exact roundedMagnitude_nonneg (le_trans nonneg ordered)
  have bits := two_le_mantissaBits spec
  have logs : Int.log 2 first ≤ Int.log 2 second := Int.log_mono_right pos ordered
  by_cases sameGrid : gridExponent spec first = gridExponent spec second
  · have scaled :
        first / 2 ^ gridExponent spec second ≤
          second / 2 ^ gridExponent spec second := by
      gcongr
    have steps := nearestEven_mono scaled
    unfold roundedMagnitude
    rw [sameGrid]
    exact mul_le_mul_of_nonneg_right (by exact_mod_cast steps) (by positivity)
  · -- The power of two that begins the second's grid lies between the two.
    have apart :
        Int.log 2 first < Int.log 2 second ∧
          gridExponent spec first ≤ Int.log 2 second ∧
          gridExponent spec second ≤ Int.log 2 second := by
      unfold gridExponent at sameGrid ⊢
      omega
    obtain ⟨logsApart, firstGrid, secondGrid⟩ := apart
    have firstBelow : first ≤ 2 ^ Int.log 2 second := by
      have beyond := Int.lt_zpow_succ_log_self (b := 2) (by decide) first
      have step : (2 : ℚ) ^ (Int.log 2 first + 1) ≤ 2 ^ Int.log 2 second :=
        zpow_le_zpow_right₀ (by decide) logsApart
      exact le_trans beyond.le (by exact_mod_cast step)
    have secondAbove : 2 ^ Int.log 2 second ≤ second := by
      exact_mod_cast
        Int.zpow_log_le_self (b := 2) (by decide) (lt_of_lt_of_le pos ordered)
    exact le_trans (roundedMagnitude_le_zpow firstGrid firstBelow)
      (zpow_le_roundedMagnitude secondGrid secondAbove)

/-! ## Signed numbers -/

theorem rounded_of_nonneg
    {value : ℚ}
    (nonneg : 0 ≤ value) :
    rounded spec value = roundedMagnitude spec value := by
  rw [rounded, if_neg (not_lt.mpr nonneg)]

@[simp] theorem rounded_zero (spec : Format) :
    rounded spec 0 = 0 := by
  rw [rounded_of_nonneg (le_refl 0), roundedMagnitude_zero]

@[simp] theorem rounded_neg
    (spec : Format)
    (value : ℚ) :
    rounded spec (-value) = -rounded spec value := by
  unfold rounded
  rcases lt_trichotomy value 0 with negative | isZero | positive
  · have opposite : ¬ -value < 0 := by linarith
    simp [negative, opposite]
  · simp [isZero]
  · have same : ¬ value < 0 := by linarith
    simp [positive, same]

theorem rounded_nonneg
    {value : ℚ}
    (nonneg : 0 ≤ value) :
    0 ≤ rounded spec value := by
  rw [rounded_of_nonneg nonneg]
  exact roundedMagnitude_nonneg nonneg

/-- Rounding keeps the order of numbers. -/
theorem rounded_mono
    {first second : ℚ}
    (ordered : first ≤ second) :
    rounded spec first ≤ rounded spec second := by
  by_cases firstNegative : first < 0
  · by_cases secondNegative : second < 0
    · have opposite :
          roundedMagnitude spec (-second) ≤ roundedMagnitude spec (-first) :=
        roundedMagnitude_mono (by linarith) (by linarith)
      simp only [rounded, firstNegative, secondNegative, if_true]
      linarith
    · have firstNonpos : 0 ≤ roundedMagnitude spec (-first) :=
        roundedMagnitude_nonneg (by linarith)
      have secondNonneg : 0 ≤ rounded spec second :=
        rounded_nonneg (not_lt.mp secondNegative)
      rw [rounded, if_pos firstNegative]
      linarith
  · have nonneg := not_lt.mp firstNegative
    rw [rounded_of_nonneg nonneg, rounded_of_nonneg (le_trans nonneg ordered)]
    exact roundedMagnitude_mono nonneg ordered

/-! ## Numbers that a format has -/

/-- A number that a format has, if its range is not limited. -/
def Representable
    (spec : Format)
    (value : ℚ) : Prop :=
  ∃ mantissa exponent : ℤ,
    |mantissa| ≤ 2 ^ spec.mantissaBits ∧
      spec.minExponent ≤ exponent ∧
      value = mantissa * 2 ^ exponent

namespace Representable

theorem neg
    {value : ℚ}
    (representable : Representable spec value) :
    Representable spec (-value) := by
  obtain ⟨mantissa, exponent, small, fine, isValue⟩ := representable
  refine ⟨-mantissa, exponent, by rwa [abs_neg], fine, ?_⟩
  rw [isValue]
  push_cast
  ring

theorem zpow
    {exponent : ℤ}
    (fine : spec.minExponent ≤ exponent) :
    Representable spec (2 ^ exponent) :=
  ⟨1, exponent, by simpa using one_le_pow₀ (by decide), fine, by simp⟩

theorem two_pow (bits : Nat) :
    Representable spec (2 ^ bits) := by
  have fine : spec.minExponent ≤ (bits : ℤ) :=
    (minExponent_nonpos _).trans (Int.natCast_nonneg bits)
  have representable := zpow fine
  rwa [zpow_natCast] at representable

/-- A format has the whole numbers up to where its finest grid gets coarser. -/
theorem intCast
    {whole : ℤ}
    (small : |whole| ≤ 2 ^ spec.mantissaBits) :
    Representable spec whole :=
  ⟨whole, 0, small, minExponent_nonpos spec, by simp⟩

theorem natCast
    {whole : Nat}
    (small : whole ≤ 2 ^ spec.mantissaBits) :
    Representable spec whole := by
  have representable : Representable spec ((whole : ℤ) : ℚ) := by
    apply intCast
    rw [Nat.abs_cast]
    exact_mod_cast small
  rwa [Int.cast_natCast] at representable

theorem abs
    {value : ℚ}
    (representable : Representable spec value) :
    Representable spec |value| := by
  rcases abs_choice value with same | opposite
  · rwa [same]
  · rw [opposite]
    exact representable.neg

/-- Magnitudes that a format has lie on their own grids. -/
theorem roundedMagnitude_eq
    {value : ℚ}
    (representable : Representable spec value)
    (nonneg : 0 ≤ value) :
    roundedMagnitude spec value = value := by
  obtain ⟨mantissa, exponent, small, fine, isValue⟩ := representable
  rcases eq_or_lt_of_le nonneg with isZero | pos
  · rw [← isZero, roundedMagnitude_zero]
  have bits := two_le_mantissaBits spec
  have mantissaLe : (mantissa : ℚ) ≤ 2 ^ (spec.mantissaBits : ℤ) := by
    rw [zpow_natCast]
    exact_mod_cast le_trans (le_abs_self mantissa) small
  have powPos : (0 : ℚ) < 2 ^ exponent := by positivity
  have atMost : value ≤ 2 ^ ((spec.mantissaBits : ℤ) + exponent) := by
    rw [isValue, zpow_add₀ (by decide)]
    exact mul_le_mul_of_nonneg_right mantissaLe powPos.le
  rcases eq_or_lt_of_le atMost with isPower | below
  · -- A full mantissa is carried over to the next grid.
    have log : Int.log 2 value = (spec.mantissaBits : ℤ) + exponent := by
      rw [isPower]
      exact_mod_cast Int.log_zpow (R := ℚ) (b := 2) (by decide) _
    have onGrid :
        gridExponent spec value ≤ (spec.mantissaBits : ℤ) + exponent := by
      unfold gridExponent
      omega
    obtain ⟨steps, isSteps⟩ := exists_steps onGrid 1
    rw [Int.cast_one, one_mul] at isSteps
    exact roundedMagnitude_of_multiple (isPower.trans isSteps)
  · have log : Int.log 2 value < (spec.mantissaBits : ℤ) + exponent :=
      (Int.lt_zpow_iff_log_lt (b := 2) (by decide) pos).mp
        (by exact_mod_cast below)
    have onGrid : gridExponent spec value ≤ exponent := by
      unfold gridExponent
      omega
    obtain ⟨steps, isSteps⟩ := exists_steps onGrid mantissa
    exact roundedMagnitude_of_multiple (isValue.trans isSteps)

/-- Rounding leaves alone what the format has. -/
theorem rounded_eq
    {value : ℚ}
    (representable : Representable spec value) :
    rounded spec value = value := by
  unfold rounded
  split
  · rename_i negative
    rw [representable.neg.roundedMagnitude_eq (by linarith), neg_neg]
  · rename_i notNegative
    exact representable.roundedMagnitude_eq (not_lt.mp notNegative)

/-- Rounding does not leave an interval between numbers of the format. -/
theorem abs_rounded_le
    {bound value : ℚ}
    (representable : Representable spec bound)
    (within : |value| ≤ bound) :
    |rounded spec value| ≤ bound := by
  obtain ⟨above, below⟩ := abs_le.mp within
  have roundedAbove : rounded spec (-bound) ≤ rounded spec value :=
    rounded_mono above
  have roundedBelow : rounded spec value ≤ rounded spec bound :=
    rounded_mono below
  rw [rounded_neg, representable.rounded_eq] at roundedAbove
  rw [representable.rounded_eq] at roundedBelow
  exact abs_le.mpr ⟨roundedAbove, roundedBelow⟩

/-- Numbers of a format that are apart have a difference that is not lost. -/
theorem rounded_sub_pos
    {first second : ℚ}
    (isFirst : Representable spec first)
    (isSecond : Representable spec second)
    (apart : first < second) :
    0 < rounded spec (second - first) := by
  obtain ⟨firstMantissa, firstExponent, -, firstFine, isFirst⟩ := isFirst
  obtain ⟨secondMantissa, secondExponent, -, secondFine, isSecond⟩ := isSecond
  obtain ⟨firstSteps, isFirstSteps⟩ := exists_steps firstFine firstMantissa
  obtain ⟨secondSteps, isSecondSteps⟩ := exists_steps secondFine secondMantissa
  have step : (0 : ℚ) < 2 ^ spec.minExponent := by positivity
  rw [isFirst, isFirstSteps, isSecond, isSecondSteps] at apart
  have ordered : firstSteps < secondSteps := by
    exact_mod_cast lt_of_mul_lt_mul_right apart step.le
  have atLeastOne : (1 : ℚ) ≤ secondSteps - firstSteps := by
    exact_mod_cast Int.le_sub_left_of_add_le ordered
  have atLeastStep : 2 ^ spec.minExponent ≤ second - first := by
    rw [isFirst, isFirstSteps, isSecond, isSecondSteps, ← sub_mul]
    exact le_mul_of_one_le_left step.le atLeastOne
  calc
    0 < 2 ^ spec.minExponent := step
    _ = rounded spec (2 ^ spec.minExponent) :=
      (Representable.zpow (le_refl _)).rounded_eq.symm
    _ ≤ rounded spec (second - first) := rounded_mono atLeastStep

end Representable

end Polyphony.Number
