import Polyphony.Proofs.Number.Accuracy

namespace Polyphony.Number

/-!
# Exactly rounded operations

The sum, the difference, the product and the quotient of two finite numbers are
the numbers of the format that are nearest to the exact results, as long as the
range of the format is not left.
-/

open Float.Model (Format UnpackedFloat totalExponent)
open Float.Model.UnpackedFloat

variable {spec : Format}

/-! ## Signs -/

theorem signed_neg
    (sign : Sign)
    (magnitude : ℚ) :
    signed (-sign) magnitude = -signed sign magnitude := by
  cases sign with
  | negative => exact (neg_neg magnitude).symm
  | positive => rfl

theorem signed_mul
    (first second : Sign)
    (magnitude other : ℚ) :
    signed (first * second) (magnitude * other) =
      signed first magnitude * signed second other := by
  cases first with
  | negative =>
      cases second with
      | negative => exact (neg_mul_neg magnitude other).symm
      | positive => exact (neg_mul magnitude other).symm
  | positive =>
      cases second with
      | negative => exact (mul_neg magnitude other).symm
      | positive => rfl

theorem signed_div
    (first second : Sign)
    (magnitude other : ℚ) :
    signed (first / second) (magnitude / other) =
      signed first magnitude / signed second other := by
  cases first with
  | negative =>
      cases second with
      | negative => exact (neg_div_neg_eq magnitude other).symm
      | positive => exact (neg_div other magnitude).symm
  | positive =>
      cases second with
      | negative => exact (div_neg magnitude).symm
      | positive => rfl

theorem cast_apply
    (sign : Sign)
    (mantissa : Nat) :
    ((sign.apply mantissa : ℤ) : ℚ) = signed sign mantissa := by
  cases sign with
  | negative => exact Int.cast_neg _
  | positive => rfl

theorem signed_mul_right
    (sign : Sign)
    (magnitude factor : ℚ) :
    signed sign (magnitude * factor) = signed sign magnitude * factor := by
  cases sign with
  | negative => exact (neg_mul magnitude factor).symm
  | positive => rfl

/-! ## What finite numbers denote -/

namespace Denotes

theorem representable
    {exact : ℚ}
    {number : UnpackedFloat}
    (denotes : Denotes spec exact number) :
    Representable spec exact := by
  cases denotes with
  | zero => exact ⟨0, 0, by simp, minExponent_nonpos spec, by simp⟩
  | @finite mantissa exponent canonical sign =>
      refine ⟨sign.apply mantissa, exponent, ?_, canonical.fine, ?_⟩
      · have fits : (mantissa : ℤ) ≤ 2 ^ spec.mantissaBits := by
          exact_mod_cast canonical.fits.le
        cases sign with
        | negative =>
            change |-(mantissa : ℤ)| ≤ _
            rwa [abs_neg, Nat.abs_cast]
        | positive =>
            change |(mantissa : ℤ)| ≤ _
            rwa [Nat.abs_cast]
      · rw [cast_apply, signed_mul_right]

theorem rounded_eq
    {exact : ℚ}
    {number : UnpackedFloat}
    (denotes : Denotes spec exact number) :
    rounded spec exact = exact :=
  denotes.representable.rounded_eq

theorem isFinite
    {exact : ℚ}
    {number : UnpackedFloat}
    (denotes : Denotes spec exact number) :
    number.isFinite = true := by
  cases denotes <;> rfl

theorem canonical
    {exact : ℚ}
    {number : UnpackedFloat}
    (denotes : Denotes spec exact number) :
    Canonical spec number := by
  cases denotes with
  | zero => exact trivial
  | finite canonical => exact canonical

/-- A number is one rational number only. -/
theorem unique
    {exact other : ℚ}
    {number : UnpackedFloat}
    (denotes : Denotes spec exact number)
    (denotesOther : Denotes spec other number) :
    exact = other := by
  cases denotes <;> cases denotesOther <;> rfl

end Denotes

/-- A finite number in the form of a format denotes a rational number. -/
theorem exists_denotes
    {number : UnpackedFloat}
    (canonical : Canonical spec number)
    (finite : number.isFinite = true) :
    ∃ exact, Denotes spec exact number := by
  cases number with
  | infinity sign => cases finite
  | notANumber => cases finite
  | zero sign => exact ⟨0, .zero sign⟩
  | finite sign mantissa exponent pos => exact ⟨_, .finite canonical sign pos⟩

/-! ## Operations -/

theorem Denotes.neg
    {exact : ℚ}
    {number : UnpackedFloat}
    (denotes : Denotes spec exact number) :
    Denotes spec (-exact) number.neg := by
  cases denotes with
  | zero sign =>
      rw [neg_zero]
      exact .zero _
  | finite canonical sign pos =>
      rw [← signed_neg]
      exact .finite canonical _ pos

theorem Denotes.abs
    {exact : ℚ}
    {number : UnpackedFloat}
    (denotes : Denotes spec exact number) :
    Denotes spec |exact| number.abs := by
  cases denotes with
  | zero sign =>
      rw [abs_zero]
      exact .zero _
  | finite canonical sign pos =>
      rw [abs_signed, abs_of_nonneg (by positivity)]
      exact .finite canonical .positive pos

theorem normalize_denotes
    (mantissa exponent : ℤ)
    (zeroSign : Sign) :
    Denotes spec (rounded spec (mantissa * 2 ^ exponent))
      (UnpackedFloat.normalize spec mantissa exponent zeroSign) := by
  unfold UnpackedFloat.normalize
  rcases lt_trichotomy mantissa 0 with negative | isZero | positive
  · rw [Int.compare_eq_lt.mpr negative]
    have notZero : (-mantissa).toNat ≠ 0 := by omega
    have magnitude : (((-mantissa).toNat : ℕ) : ℚ) = -mantissa := by
      exact_mod_cast Int.toNat_of_nonneg (by omega)
    have denotes :
        Denotes spec _ (round spec .negative (-mantissa).toNat exponent) :=
      round_denotes notZero .negative exponent
    rw [magnitude] at denotes
    change Denotes spec (rounded spec (-(-mantissa * 2 ^ exponent))) _ at denotes
    rwa [neg_mul, neg_neg] at denotes
  · rw [Int.compare_eq_eq.mpr isZero, isZero, Int.cast_zero, zero_mul,
      rounded_zero]
    exact .zero zeroSign
  · rw [Int.compare_eq_gt.mpr positive]
    have notZero : mantissa.toNat ≠ 0 := by omega
    have magnitude : ((mantissa.toNat : ℕ) : ℚ) = mantissa := by
      exact_mod_cast Int.toNat_of_nonneg (by omega)
    have denotes :
        Denotes spec _ (round spec .positive mantissa.toNat exponent) :=
      round_denotes notZero .positive exponent
    rw [magnitude] at denotes
    exact denotes

/-- On a finer grid a number has a greater mantissa. -/
theorem shiftLeft_of_finer
    (mantissa : Nat)
    {exponent target : ℤ}
    (finer : target ≤ exponent) :
    ((mantissa <<< (exponent - target).toNat : Nat) * 2 ^ target : ℚ) =
      mantissa * 2 ^ exponent := by
  have sameValue :=
    shiftLeft_mul_zpow mantissa (exponent - target).toNat exponent
  have reached : exponent - ((exponent - target).toNat : ℤ) = target := by
    omega
  rwa [reached] at sameValue

/-- A mantissa at a common exponent is the same number. -/
theorem signed_decreaseExponent
    (sign : Sign)
    (mantissa : Nat)
    {exponent target : ℤ}
    (finer : target ≤ exponent) :
    (sign.apply (decreaseExponent mantissa exponent target).1 : ℤ) *
        2 ^ target =
      signed sign (mantissa * 2 ^ exponent) := by
  rw [cast_apply, ← signed_mul_right]
  exact congrArg (signed sign) (shiftLeft_of_finer mantissa finer)

theorem Denotes.add
    {exact other : ℚ}
    {first second : UnpackedFloat}
    (denotesFirst : Denotes spec exact first)
    (denotesSecond : Denotes spec other second) :
    Denotes spec (rounded spec (exact + other)) (add spec first second) := by
  cases denotesFirst with
  | zero sign =>
      rw [zero_add, denotesSecond.rounded_eq]
      cases denotesSecond with
      | zero otherSign =>
          change Denotes spec 0 (if _ then _ else _)
          split <;> exact .zero _
      | finite canonical otherSign pos => exact .finite canonical otherSign pos
  | @finite mantissa exponent canonical sign pos =>
      cases denotesSecond with
      | zero otherSign =>
          rw [add_zero, (Denotes.finite canonical sign pos).rounded_eq]
          exact .finite canonical sign pos
      | @finite otherMantissa otherExponent otherCanonical otherSign otherPos =>
          have common :=
            signed_decreaseExponent sign mantissa
              (min_le_left exponent otherExponent)
          have otherCommon :=
            signed_decreaseExponent otherSign otherMantissa
              (min_le_right exponent otherExponent)
          rw [← common, ← otherCommon, ← add_mul, ← Int.cast_add]
          exact normalize_denotes _ _ _

/-- A difference is the sum with the opposite number. -/
theorem sub_eq_add_neg_of_denotes
    {exact other : ℚ}
    {first second : UnpackedFloat}
    (denotesFirst : Denotes spec exact first)
    (denotesSecond : Denotes spec other second) :
    sub spec first second = add spec first second.neg := by
  cases denotesFirst with
  | zero sign => cases denotesSecond <;> rfl
  | finite canonical sign pos =>
      cases denotesSecond with
      | zero otherSign => rfl
      | finite otherCanonical otherSign otherPos =>
          cases otherSign with
          | negative =>
              simp only [sub, add, neg]
              congr 1
              exact sub_neg_eq_add _ _
          | positive =>
              simp only [sub, add, neg]
              congr 1

theorem Denotes.sub
    {exact other : ℚ}
    {first second : UnpackedFloat}
    (denotesFirst : Denotes spec exact first)
    (denotesSecond : Denotes spec other second) :
    Denotes spec (rounded spec (exact - other)) (sub spec first second) := by
  rw [sub_eq_add_neg_of_denotes denotesFirst denotesSecond, sub_eq_add_neg]
  exact denotesFirst.add denotesSecond.neg

theorem ofInt_denotes (whole : ℤ) :
    Denotes spec (rounded spec whole) (ofInt spec whole) := by
  have denotes : Denotes spec _ (normalize spec whole 0 .positive) :=
    normalize_denotes whole 0 .positive
  rwa [zpow_zero, mul_one] at denotes

/-! ## Products -/

/-- The exponents of two numbers do not leave too short a product. -/
theorem CanonicalForm.exponent_le
    {mantissa other : Nat}
    {exponent otherExponent : ℤ}
    (canonical : CanonicalForm spec mantissa exponent)
    (canonicalOther : CanonicalForm spec other otherExponent)
    (pos : 0 < mantissa)
    (otherPos : 0 < other) :
    exponent + otherExponent ≤
      spec.targetExponent
        (totalExponent (mantissa * other) (exponent + otherExponent)) := by
  have leading : spec.mantissaBits = 1 + spec.mantissaBitsWithoutImplicit := rfl
  have finest := minExponent_nonpos spec
  unfold Format.targetExponent totalExponent
  by_cases long : 2 ^ spec.mantissaBitsWithoutImplicit ≤ mantissa * other
  · have log := (Nat.le_log2 (Nat.mul_pos pos otherPos).ne').mpr long
    omega
  · have short : ¬ 2 ^ spec.mantissaBitsWithoutImplicit ≤ mantissa := by
      intro full
      exact long (le_trans full (Nat.le_mul_of_pos_right mantissa otherPos))
    have otherShort : ¬ 2 ^ spec.mantissaBitsWithoutImplicit ≤ other := by
      intro full
      exact long (le_trans full (Nat.le_mul_of_pos_left other pos))
    have isFinest := canonical.full.resolve_left short
    have otherIsFinest := canonicalOther.full.resolve_left otherShort
    omega

theorem Denotes.mul
    {exact other : ℚ}
    {first second : UnpackedFloat}
    (denotesFirst : Denotes spec exact first)
    (denotesSecond : Denotes spec other second) :
    Denotes spec (rounded spec (exact * other)) (mul spec first second) := by
  cases denotesFirst with
  | zero sign =>
      rw [zero_mul, rounded_zero]
      cases denotesSecond <;> exact .zero _
  | @finite mantissa exponent canonical sign pos =>
      cases denotesSecond with
      | zero otherSign =>
          rw [mul_zero, rounded_zero]
          exact .zero _
      | @finite otherMantissa otherExponent otherCanonical otherSign otherPos =>
          have product :
              (mantissa * 2 ^ exponent * (otherMantissa * 2 ^ otherExponent) :
                  ℚ) =
                (mantissa * otherMantissa : Nat) *
                  2 ^ (exponent + otherExponent) := by
            rw [zpow_add₀ (by decide)]
            push_cast
            ring
          have described :
              Describes .exact
                (((mantissa * otherMantissa : Nat) : ℚ) -
                  (mantissa * otherMantissa : Nat)) :=
            sub_self _
          have notZero : mantissa * otherMantissa ≠ 0 := by positivity
          rw [← signed_mul, product]
          exact roundWithAccuracy_denotes described
            (canonical.exponent_le otherCanonical pos otherPos)
            (fun isZero => absurd isZero notZero) _

/-! ## Quotients -/

/-- A quotient of mantissas, cut off at a place, and the account of the rest. -/
theorem describes_quotient
    {dividend divisor : Nat}
    (pos : 0 < divisor) :
    Describes (accuracyOfFraction (dividend % divisor) divisor)
      ((dividend / divisor : ℚ) - (dividend / divisor : Nat)) := by
  have division :
      (divisor * (dividend / divisor : Nat) + (dividend % divisor : Nat) : ℚ) =
        dividend := by
    exact_mod_cast Nat.div_add_mod dividend divisor
  have part :
      ((dividend / divisor : ℚ) - (dividend / divisor : Nat)) =
        (dividend % divisor : Nat) / divisor := by
    have notZero : (divisor : ℚ) ≠ 0 := by positivity
    rw [eq_div_iff notZero, sub_mul, div_mul_cancel₀ _ notZero]
    linarith
  rw [part]
  exact describes_accuracyOfFraction (Nat.mod_lt dividend pos)

/-- A quotient of mantissas is as long as their lengths differ, or one less. -/
theorem le_log2_div
    {dividend divisor places : Nat}
    (dividendNotZero : dividend ≠ 0)
    (divisorNotZero : divisor ≠ 0)
    (longer : divisor.log2 + places + 1 ≤ dividend.log2) :
    dividend / divisor ≠ 0 ∧ places ≤ (dividend / divisor).log2 := by
  have above := Nat.log2_self_le dividendNotZero
  have below : divisor < 2 ^ (divisor.log2 + 1) := Nat.lt_log2_self
  have quotient : 2 ^ places ≤ dividend / divisor := by
    rw [Nat.le_div_iff_mul_le (Nat.pos_of_ne_zero divisorNotZero)]
    calc
      2 ^ places * divisor ≤ 2 ^ places * 2 ^ (divisor.log2 + 1) :=
        Nat.mul_le_mul_left _ below.le
      _ = 2 ^ (divisor.log2 + places + 1) := by ring
      _ ≤ 2 ^ dividend.log2 := Nat.pow_le_pow_right (by decide) longer
      _ ≤ dividend := above
  have notZero : dividend / divisor ≠ 0 := by
    have pos : 0 < 2 ^ places := by positivity
    omega
  exact ⟨notZero, (Nat.le_log2 notZero).mpr quotient⟩

/-- A quotient is cut off at a place that is fine enough for its rounding. -/
theorem quotient_fine
    {dividend divisor places : Nat}
    {exponent cut : ℤ}
    (dividendNotZero : dividend ≠ 0)
    (divisorNotZero : divisor ≠ 0)
    (isCut : cut + places = exponent)
    (fine :
      cut ≤
        spec.targetExponent (dividend.log2 - divisor.log2 + exponent)) :
    cut ≤
        spec.targetExponent
          (totalExponent ((dividend <<< places) / divisor) cut) ∧
      ((dividend <<< places) / divisor = 0 → cut ≤ spec.minExponent) := by
  have bits := two_le_mantissaBits spec
  have log := log2_shiftLeft dividendNotZero places
  have shiftedNotZero : dividend <<< places ≠ 0 := by
    rw [Nat.shiftLeft_eq]
    positivity
  unfold Format.targetExponent totalExponent at *
  by_cases long : divisor.log2 + 1 ≤ dividend.log2 + places
  · have longer :
        divisor.log2 + (dividend.log2 + places - divisor.log2 - 1) + 1 ≤
          (dividend <<< places).log2 := by
      omega
    obtain ⟨notZero, length⟩ :=
      le_log2_div shiftedNotZero divisorNotZero longer
    exact ⟨by omega, fun isZero => absurd isZero notZero⟩
  · exact ⟨by omega, fun _ => by omega⟩

theorem Denotes.div
    {exact other : ℚ}
    {first second : UnpackedFloat}
    (denotesFirst : Denotes spec exact first)
    (denotesSecond : Denotes spec other second)
    (notZero : other ≠ 0) :
    Denotes spec (rounded spec (exact / other)) (div spec first second) := by
  cases denotesSecond with
  | zero otherSign => exact absurd rfl notZero
  | @finite otherMantissa otherExponent otherCanonical otherSign otherPos =>
      cases denotesFirst with
      | zero sign =>
          rw [zero_div, rounded_zero]
          exact .zero _
      | @finite mantissa exponent canonical sign pos =>
          generalize isCut :
            min (exponent - otherExponent)
              (spec.targetExponent
                (totalExponent mantissa exponent -
                  totalExponent otherMantissa otherExponent)) = cut
          generalize isPlaces :
            (exponent - otherExponent - cut).toNat = places
          have sum : cut + places = exponent - otherExponent := by omega
          have lengths :
              totalExponent mantissa exponent -
                  totalExponent otherMantissa otherExponent =
                mantissa.log2 - otherMantissa.log2 +
                  (exponent - otherExponent) := by
            unfold totalExponent
            ring
          rw [lengths] at isCut
          have atMost :
              cut ≤
                spec.targetExponent
                  (mantissa.log2 - otherMantissa.log2 +
                    (exponent - otherExponent)) := by
            omega
          obtain ⟨fine, finest⟩ :=
            quotient_fine pos.ne' otherPos.ne' sum atMost
          have quotient :
              (mantissa * 2 ^ exponent / (otherMantissa * 2 ^ otherExponent) :
                  ℚ) =
                (mantissa <<< places : Nat) / otherMantissa * 2 ^ cut := by
            have divisorNotZero : (otherMantissa : ℚ) ≠ 0 := by positivity
            have split :
                (2 : ℚ) ^ exponent =
                  2 ^ places * 2 ^ cut * 2 ^ otherExponent := by
              rw [← zpow_natCast, ← zpow_add₀ (by decide),
                ← zpow_add₀ (by decide)]
              congr 1
              omega
            rw [split, Nat.shiftLeft_eq]
            push_cast
            field_simp
          have unfolded :
              UnpackedFloat.div spec (.finite sign mantissa exponent pos)
                  (.finite otherSign otherMantissa otherExponent otherPos) =
                roundWithAccuracy spec (sign / otherSign)
                  ((mantissa <<< places) / otherMantissa) cut
                  (accuracyOfFraction ((mantissa <<< places) % otherMantissa)
                    otherMantissa) := by
            rw [← isPlaces, ← isCut, ← lengths]
            rfl
          rw [unfolded, ← signed_div, quotient]
          exact roundWithAccuracy_denotes (describes_quotient otherPos) fine
            finest _

end Polyphony.Number
