import Polyphony.Proofs.Number.Grid

namespace Polyphony.Number

/-!
# Multiples of a power of two

Sums, differences and remainders of multiples of a power of two are multiples of
it, and so is what they are rounded to.  Numbers of a format are such multiples
as far as they are great enough, and multiples are numbers of the format as far
as they are small enough.
-/

open Float.Model (Format)

/-- A value is a multiple of two to a power. -/
def Multiple
    (exponent : ℤ)
    (value : ℚ) : Prop :=
  ∃ steps : ℤ, value = steps * 2 ^ exponent

namespace Multiple

variable {spec : Format} {exponent finer : ℤ} {first second value : ℚ}

theorem of_finer
    (multiple : Multiple exponent value)
    (below : finer ≤ exponent) :
    Multiple finer value := by
  obtain ⟨steps, isSteps⟩ := multiple
  obtain ⟨fineSteps, isFineSteps⟩ := exists_steps below steps
  exact ⟨fineSteps, isSteps.trans isFineSteps⟩

theorem natCast
    (whole : Nat)
    (below : finer ≤ 0) :
    Multiple finer whole :=
  of_finer ⟨whole, by simp⟩ below

theorem add
    (isFirst : Multiple exponent first)
    (isSecond : Multiple exponent second) :
    Multiple exponent (first + second) := by
  obtain ⟨firstSteps, rfl⟩ := isFirst
  obtain ⟨secondSteps, rfl⟩ := isSecond
  exact ⟨firstSteps + secondSteps, by push_cast; ring⟩

theorem sub
    (isFirst : Multiple exponent first)
    (isSecond : Multiple exponent second) :
    Multiple exponent (first - second) := by
  obtain ⟨firstSteps, rfl⟩ := isFirst
  obtain ⟨secondSteps, rfl⟩ := isSecond
  exact ⟨firstSteps - secondSteps, by push_cast; ring⟩

theorem natCast_mul
    (count : Nat)
    (multiple : Multiple exponent value) :
    Multiple exponent (count * value) := by
  obtain ⟨steps, rfl⟩ := multiple
  exact ⟨count * steps, by push_cast; ring⟩

/-- What lies on a grid is rounded to itself or to a point of a coarser one. -/
theorem rounded
    (multiple : Multiple exponent value)
    (nonneg : 0 ≤ value) :
    Multiple exponent (rounded spec value) := by
  rw [rounded_of_nonneg nonneg]
  rcases le_total (gridExponent spec value) exponent with finer | coarser
  · obtain ⟨steps, isSteps⟩ := multiple.of_finer finer
    rw [roundedMagnitude_of_multiple isSteps]
    exact multiple
  · exact of_finer ⟨_, rfl⟩ coarser

/-- A number has no more digits than its format: great ones lie on coarse grids. -/
theorem of_representable
    (representable : Representable spec value)
    (above : 2 ^ exponent ≤ value) :
    Multiple (exponent + 1 - spec.mantissaBits) value := by
  have pos : 0 < value := lt_of_lt_of_le (by positivity) above
  have log : exponent ≤ Int.log 2 value :=
    (Int.zpow_le_iff_le_log (b := 2) (by decide) pos).mp
      (by exact_mod_cast above)
  have onGrid : Multiple (gridExponent spec value) value :=
    ⟨_, (representable.roundedMagnitude_eq pos.le).symm⟩
  refine onGrid.of_finer ?_
  unfold gridExponent
  omega

/-- Multiples that need no more digits than the format has are its numbers. -/
theorem representable
    (multiple : Multiple exponent value)
    (fine : spec.minExponent ≤ exponent)
    (small : |value| ≤ 2 ^ spec.mantissaBits * 2 ^ exponent) :
    Representable spec value := by
  obtain ⟨steps, isSteps⟩ := multiple
  refine ⟨steps, exponent, ?_, fine, isSteps⟩
  have step : (0 : ℚ) < 2 ^ exponent := by positivity
  rw [isSteps, abs_mul, abs_of_pos step] at small
  exact_mod_cast le_of_mul_le_mul_right small step

end Multiple

end Polyphony.Number
