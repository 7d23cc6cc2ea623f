import Polyphony.Proofs.Number.Machine

namespace Polyphony.Number

/-!
# Conversions of machine numbers

Whole numbers become machine numbers by rounding, machine numbers whole numbers
by dropping what is behind the point, and the two precisions are rounded into
each other.
-/

open Float.Model (Format UnpackedFloat totalExponent)
open Float.Model.UnpackedFloat
open FloatingPoint (spec unpack)

/-! ## Signs -/

/-- What differs from a machine number only in its sign is one, too. -/
theorem stored_of_abs_eq
    {format : Format}
    (wide : 2 ≤ format.exponentBits)
    {exact : ℚ}
    {number : UnpackedFloat}
    (denotes : Denotes format exact number)
    (small : |exact| < overflow format) :
    stored format number = number := by
  rcases stored_eq wide denotes with ⟨-, same⟩ | ⟨above, -⟩ | ⟨below, -⟩
  · exact same
  · exact absurd (abs_lt.mp small).2 (not_lt.mpr above)
  · exact absurd (abs_lt.mp small).1 (not_lt.mpr below)

theorem Is.neg
    {value : Float32}
    {exact : ℚ}
    (isExact : Is value exact) :
    Is (-value) (-exact) := by
  have small := isExact.abs_lt_overflow
  rw [← abs_neg] at small
  have denotes := Denotes.neg isExact
  change Denotes (spec Float32) _ (stored (spec Float32) (unpack value).neg)
  rwa [stored_of_abs_eq FloatingPoint.wide denotes small]

theorem Is.abs
    {value : Float32}
    {exact : ℚ}
    (isExact : Is value exact) :
    Is value.abs |exact| := by
  have small := isExact.abs_lt_overflow
  rw [← abs_abs] at small
  have denotes := Denotes.abs isExact
  change Denotes (spec Float32) _ (stored (spec Float32) (unpack value).abs)
  rwa [stored_of_abs_eq FloatingPoint.wide denotes small]

/-! ## From whole numbers -/

/-- A whole number that is too long for the short way is rounded once. -/
theorem ofScientific_denotes
    {format : Format}
    {whole : Nat}
    (notZero : whole ≠ 0) :
    Denotes format (rounded format whole) (ofScientific format whole 0) := by
  have bits := two_le_mantissaBits format
  have notTooGreat : ¬ (0 : ℤ) > 2 ^ format.exponentBits := by
    have pos : (0 : ℤ) < 2 ^ format.exponentBits := by positivity
    omega
  have notTooSmall :
      ¬ (0 : ℤ) < -((2 ^ format.exponentBits : ℤ) + whole.log2) := by
    have pos : (0 : ℤ) < 2 ^ format.exponentBits := by positivity
    omega
  have log := log2_shiftLeft notZero format.mantissaBits
  have shifted : whole <<< format.mantissaBits ≠ 0 := by
    rw [Nat.shiftLeft_eq]
    positivity
  have unfolded :
      ofScientific format whole 0 =
        roundWithAccuracy format .positive (whole <<< format.mantissaBits * 1)
          (-format.mantissaBits + 0) .exact := by
    unfold ofScientific
    rw [dif_neg notZero, if_neg notTooGreat, if_neg notTooSmall,
      if_pos (le_refl 0)]
    rfl
  have described :
      Describes .exact
        (((whole <<< format.mantissaBits : Nat) : ℚ) -
          (whole <<< format.mantissaBits : Nat)) :=
    sub_self _
  have fine :
      -(format.mantissaBits : ℤ) ≤
        format.targetExponent
          (totalExponent (whole <<< format.mantissaBits)
            (-format.mantissaBits)) := by
    unfold Format.targetExponent totalExponent
    omega
  have denotes :=
    roundWithAccuracy_denotes described fine
      (fun isZero => absurd isZero shifted) .positive
  have sameValue := shiftLeft_mul_zpow whole format.mantissaBits 0
  rw [zero_sub, zpow_zero, mul_one] at sameValue
  rw [signed_positive, sameValue] at denotes
  rwa [unfolded, Nat.mul_one, add_zero]

section Machine

variable {Value : Type} [Add Value] [Sub Value] [Mul Value] [Div Value]
  [LT Value] [LE Value] [FloatingPoint Value]

/-- The number of a machine number whose parts are known. -/
theorem is_of_unpack
    {value : Value}
    {sign : Sign}
    {mantissa : Nat}
    {exponent : ℤ}
    {pos : 0 < mantissa}
    (parts : unpack value = .finite sign mantissa exponent pos) :
    Is value (signed sign (mantissa * 2 ^ exponent)) := by
  have canonical := FloatingPoint.canonical value
  unfold Is
  rw [parts] at canonical ⊢
  exact .finite canonical sign pos

/-- What is stored of a whole number. -/
theorem is_of_whole
    {value : Value}
    {whole : ℤ}
    (parts : unpack value = stored (spec Value) (ofInt (spec Value) whole))
    (inRange : |(whole : ℚ)| ≤ limit (spec Value)) :
    Is value (rounded (spec Value) whole) := by
  unfold Is
  rw [parts]
  exact stored_denotes FloatingPoint.wide (ofInt_denotes whole) inRange

theorem abs_le_of_nat
    {bound : ℚ}
    {whole : Nat}
    (inRange : (whole : ℚ) ≤ bound) :
    |((whole : ℤ) : ℚ)| ≤ bound := by
  rwa [Int.cast_natCast, Nat.abs_cast]

/-- The short way to a whole number: from a machine word, times one. -/
theorem is_of_short
    {word one : Value}
    {whole : Nat}
    (isWord : whole < 2 ^ 64)
    (parts :
      unpack word =
        stored (spec Value) (ofInt (spec Value) whole.toUInt64.toNat))
    (isOne : Is one 1)
    (inRange : (whole : ℚ) ≤ limit (spec Value)) :
    Is (word * one) (rounded (spec Value) whole) := by
  have same : whole.toUInt64.toNat = whole := Nat.mod_eq_of_lt isWord
  have small := abs_le_of_nat inRange
  rw [same] at parts
  have isWhole := is_of_whole parts small
  have stillSmall := (limit_representable _).abs_rounded_le small
  have product := isWhole.mul isOne (by rwa [mul_one])
  rwa [mul_one, Denotes.rounded_eq isWhole] at product

/-- The long way to a whole number: as a decimal without places. -/
theorem is_of_long
    {value : Value}
    {whole : Nat}
    (notZero : whole ≠ 0)
    (parts :
      unpack value = stored (spec Value) (ofScientific (spec Value) whole 0))
    (inRange : (whole : ℚ) ≤ limit (spec Value)) :
    Is value (rounded (spec Value) whole) := by
  unfold Is
  rw [parts]
  exact stored_denotes FloatingPoint.wide (ofScientific_denotes notZero)
    (abs_le_of_nat inRange)

end Machine

/-! ## Single precision -/

namespace Single

theorem limit_eq : limit (spec Float32) = 2 ^ 127 := rfl

/-- The finite numbers are those that are some rational number. -/
theorem isFinite_iff {value : Float32} :
    value.isFinite = true ↔ ∃ exact, Is value exact :=
  ⟨fun finite => exists_is (show (unpack value).isFinite = true from finite),
    fun ⟨_, isExact⟩ => Denotes.isFinite isExact⟩

theorem is_one : Is (Float32.ofBits 0x3F800000) 1 := by
  have parts :
      unpack (Float32.ofBits 0x3F800000) =
        .finite .positive (2 ^ 23) (-23) (by decide) :=
    rfl
  have isExact := is_of_unpack parts
  norm_num at isExact
  exact isExact

theorem is_ofNat
    {whole : Nat}
    (inRange : (whole : ℚ) ≤ limit (spec Float32)) :
    Is (Float32.ofNat whole) (rounded (spec Float32) whole) := by
  change Is (Float32.ofScientific whole false 0) _
  unfold Float32.ofScientific
  by_cases short : whole < 2 ^ 23
  · rw [dif_pos ⟨short, by decide⟩]
    exact is_of_short (lt_trans short (by decide)) rfl is_one inRange
  · have notZero : whole ≠ 0 := by omega
    rw [dif_neg (fun both => short both.1)]
    exact is_of_long notZero rfl inRange

end Single

/-! ## Double precision -/

namespace Double

theorem limit_eq : limit (spec Float) = 2 ^ 1023 := rfl

/-- The finite numbers are those that are some rational number. -/
theorem isFinite_iff {value : Float} :
    value.isFinite = true ↔ ∃ exact, Is value exact :=
  ⟨fun finite => exists_is (show (unpack value).isFinite = true from finite),
    fun ⟨_, isExact⟩ => Denotes.isFinite isExact⟩

theorem is_one : Is (Float.ofBits 0x3FF0000000000000) 1 := by
  have parts :
      unpack (Float.ofBits 0x3FF0000000000000) =
        .finite .positive (2 ^ 52) (-52) (by decide) :=
    rfl
  have isExact := is_of_unpack parts
  norm_num at isExact
  exact isExact

theorem is_ofNat
    {whole : Nat}
    (inRange : (whole : ℚ) ≤ limit (spec Float)) :
    Is (Float.ofNat whole) (rounded (spec Float) whole) := by
  change Is (Float.ofScientific whole false 0) _
  unfold Float.ofScientific
  by_cases short : whole < 2 ^ 53
  · rw [dif_pos ⟨short, by decide⟩]
    exact is_of_short (lt_trans short (by decide)) rfl is_one inRange
  · have notZero : whole ≠ 0 := by omega
    rw [dif_neg (fun both => short both.1)]
    exact is_of_long notZero rfl inRange

end Double

/-! ## To whole numbers -/

/-- Dropping what is behind the point leaves the whole part of a magnitude. -/
theorem roundToInt_eq
    (sign : Sign)
    (mantissa : Nat)
    (exponent : ℤ) :
    roundToInt sign mantissa exponent =
      sign.apply ⌊(mantissa * 2 ^ exponent : ℚ)⌋ := by
  generalize isPlaces : (exponent - 0).toNat = places
  have described :
      Describes .exact
        (((mantissa <<< places : Nat) : ℚ) - (mantissa <<< places : Nat)) :=
    sub_self _
  have fine : exponent - places ≤ 0 := by omega
  obtain ⟨-, represents⟩ := described.shiftToExponent fine
  have whole := represents.floor
  rw [shiftLeft_mul_zpow, zpow_zero, div_one] at whole
  rw [whole, ← isPlaces]
  rfl

theorem Denotes.toInt
    {format : Format}
    {exact : ℚ}
    {number : UnpackedFloat}
    (denotes : Denotes format exact number)
    (nonneg : 0 ≤ exact)
    (lowest highest : ℤ) :
    number.toInt lowest highest = ⌊exact⌋ := by
  cases denotes with
  | zero sign => exact Int.floor_zero.symm
  | @finite mantissa exponent canonical sign pos =>
      cases sign with
      | negative =>
          have magnitude : (0 : ℚ) < mantissa * 2 ^ exponent := by positivity
          rw [signed_negative] at nonneg
          exact absurd nonneg (not_le.mpr (neg_neg_of_pos magnitude))
      | positive => exact roundToInt_eq .positive mantissa exponent

theorem toNat_ofNatClamp_uInt32 (whole : Nat) :
    (UInt32.ofNatClamp whole).toNat = min whole (2 ^ 32 - 1) := by
  unfold UInt32.ofNatClamp
  split
  · rename_i isWord
    have below : whole < 2 ^ 32 := isWord
    rw [min_eq_left (by omega)]
    rfl
  · rename_i tooGreat
    have above : ¬ whole < 2 ^ 32 := tooGreat
    rw [min_eq_right (by omega)]
    rfl

theorem toNat_ofNatClamp_uInt64 (whole : Nat) :
    (UInt64.ofNatClamp whole).toNat = min whole (2 ^ 64 - 1) := by
  unfold UInt64.ofNatClamp
  split
  · rename_i isWord
    have below : whole < 2 ^ 64 := isWord
    rw [min_eq_left (by omega)]
    rfl
  · rename_i tooGreat
    have above : ¬ whole < 2 ^ 64 := tooGreat
    rw [min_eq_right (by omega)]
    rfl

theorem Is.toUInt32
    {value : Float32}
    {exact : ℚ}
    (isExact : Is value exact)
    (nonneg : 0 ≤ exact) :
    value.toUInt32.toNat = min ⌊exact⌋.toNat (2 ^ 32 - 1) := by
  rw [← Denotes.toInt isExact nonneg 0 (UInt32.size - 1),
    ← toNat_ofNatClamp_uInt32]
  rfl

theorem Is.toUInt64
    {value : Float}
    {exact : ℚ}
    (isExact : Is value exact)
    (nonneg : 0 ≤ exact) :
    value.toUInt64.toNat = min ⌊exact⌋.toNat (2 ^ 64 - 1) := by
  rw [← Denotes.toInt isExact nonneg 0 (UInt64.size - 1),
    ← toNat_ofNatClamp_uInt64]
  rfl

/-! ## Between precisions -/

/-- A number in the form of another format; what is not finite stays. -/
def converted
    (wanted : Format) :
    UnpackedFloat → UnpackedFloat
  | .finite sign mantissa exponent _ => round wanted sign mantissa exponent
  | special => special

theorem Denotes.converted
    {format wanted : Format}
    {exact : ℚ}
    {number : UnpackedFloat}
    (denotes : Denotes format exact number) :
    Denotes wanted (rounded wanted exact) (converted wanted number) := by
  cases denotes with
  | zero sign =>
      rw [rounded_zero]
      exact .zero sign
  | finite canonical sign pos => exact round_denotes pos.ne' sign _

theorem Is.narrow
    {value : Float}
    {exact : ℚ}
    (isExact : Is value exact)
    (inRange : |exact| ≤ limit (spec Float32)) :
    Is (narrow value) (rounded (spec Float32) exact) :=
  stored_denotes FloatingPoint.wide (Denotes.converted isExact) inRange

/-- Every single precision number is a double precision one. -/
theorem Representable.widen
    {exact : ℚ}
    (representable : Representable (spec Float32) exact) :
    Representable (spec Float) exact := by
  obtain ⟨mantissa, exponent, small, fine, isExact⟩ := representable
  have sizes :
      (2 : ℤ) ^ (spec Float32).mantissaBits ≤ 2 ^ (spec Float).mantissaBits :=
    by decide
  have exponents : (spec Float).minExponent ≤ (spec Float32).minExponent := by
    decide
  exact ⟨mantissa, exponent, small.trans sizes, exponents.trans fine, isExact⟩

theorem Is.widen
    {value : Float32}
    {exact : ℚ}
    (isExact : Is value exact) :
    Is (widen value) exact := by
  have small := isExact.abs_lt_overflow
  have ranges : overflow (spec Float32) ≤ limit (spec Float) :=
    zpow_le_zpow_right₀ (by decide) (by decide)
  have stores : Is (Number.widen value) (rounded (spec Float) exact) :=
    stored_denotes FloatingPoint.wide (Denotes.converted isExact)
      (small.le.trans ranges)
  have representable := Representable.widen (Denotes.representable isExact)
  rwa [representable.rounded_eq] at stores

/-! ## The sign bit -/

theorem unpackSign_of_unpack
    {format : Format}
    {bits : BitVec format.numBits}
    {sign : Sign}
    {mantissa : Nat}
    {exponent : ℤ}
    {pos : 0 < mantissa}
    (parts :
      UnpackedFloat.unpack format bits =
        .finite sign mantissa exponent pos) :
    unpackSign bits = sign.toBitVec := by
  unfold UnpackedFloat.unpack at parts
  dsimp only at parts
  split at parts
  · split at parts <;> cases parts
  · split at parts
    · split at parts
      · cases parts
      · cases parts
        exact (Sign.toBitVec_ofBitVec _).symm
    · cases parts
      exact (Sign.toBitVec_ofBitVec _).symm

theorem isNegative_of_unpack
    {value : Float32}
    {sign : Sign}
    {mantissa : Nat}
    {exponent : ℤ}
    {pos : 0 < mantissa}
    (parts : unpack value = .finite sign mantissa exponent pos) :
    isNegative value = (sign.toBitVec == 1#1) := by
  have bit := unpackSign_of_unpack parts
  have below := value.toModel.toBits.toNat_lt
  have first :
      sign.toBitVec.toNat = value.toModel.toBits.toNat / 2 ^ 31 % 2 := by
    rw [← bit]
    simp [unpackSign, Nat.shiftRight_eq_div_pow]
  have shifted :
      (value.toModel.toBits >>> 31).toNat =
        value.toModel.toBits.toNat / 2 ^ 31 := by
    simp [Nat.shiftRight_eq_div_pow]
  change (value.toModel.toBits >>> 31 == 1) = _
  rw [Bool.eq_iff_iff, beq_iff_eq, beq_iff_eq, ← UInt32.toNat_inj,
    ← BitVec.toNat_inj, shifted, first]
  change _ = 1 ↔ _ = 1
  omega

theorem Is.isNegative
    {value : Float32}
    {exact : ℚ}
    (isExact : Is value exact)
    (notZero : exact ≠ 0) :
    isNegative value = decide (exact < 0) := by
  unfold Is at isExact
  cases parts : unpack value with
  | infinity sign =>
      rw [parts] at isExact
      cases isExact
  | notANumber =>
      rw [parts] at isExact
      cases isExact
  | zero sign =>
      rw [parts] at isExact
      cases isExact
      exact absurd rfl notZero
  | finite sign mantissa exponent pos =>
      have magnitude : (0 : ℚ) < mantissa * 2 ^ exponent := by positivity
      rw [isNegative_of_unpack parts]
      rw [parts] at isExact
      cases isExact
      cases sign with
      | negative =>
          rw [signed_negative, decide_eq_true (neg_neg_of_pos magnitude)]
          rfl
      | positive =>
          rw [signed_positive, decide_eq_false (not_lt.mpr magnitude.le)]
          rfl

end Polyphony.Number
