import Mathlib

namespace Polyphony.Number

/-!
# Packed numbers

Every operation of machine numbers unpacks its operands, works on sign, mantissa
and exponent, and packs the result.  In a format each number has one canonical
mantissa and exponent.  Packing a canonical number and unpacking it again gives
the number back, or an infinity if it is beyond the range of the format.
-/

open Float.Model (Format UnpackedFloat)
open Float.Model.UnpackedFloat

/-- The mantissa and the exponent that a format uses for a finite number. -/
structure CanonicalForm
    (spec : Format)
    (mantissa : Nat)
    (exponent : Int) : Prop where
  fits : mantissa < 2 ^ spec.mantissaBits
  fine : spec.minExponent ≤ exponent
  full :
    2 ^ spec.mantissaBitsWithoutImplicit ≤ mantissa ∨
      exponent = spec.minExponent

/-- A number in the form that a format uses; its range is not limited. -/
def Canonical
    (spec : Format) :
    UnpackedFloat → Prop
  | .finite _ mantissa exponent _ => CanonicalForm spec mantissa exponent
  | _ => True

/-- The greatest exponent of a finite number. -/
def maxExponent (spec : Format) : Int :=
  spec.exponentBias - spec.mantissaBitsWithoutImplicit

/-- What is left of a number when it is packed. -/
def stored
    (spec : Format)
    (number : UnpackedFloat) :
    UnpackedFloat :=
  unpack spec (pack spec number)

/-! ## Sizes -/

theorem two_pow_exponentBits (spec : Format) :
    2 ^ spec.exponentBits = 2 * spec.exponentBias + 2 := by
  have some := spec.he
  have pos : 1 ≤ 2 ^ (spec.exponentBits - 1) := Nat.one_le_two_pow
  have double : spec.exponentBits = spec.exponentBits - 1 + 1 := by omega
  rw [double, Nat.pow_succ]
  unfold Format.exponentBias
  omega

theorem one_le_exponentBias
    {spec : Format}
    (wide : 2 ≤ spec.exponentBits) :
    1 ≤ spec.exponentBias := by
  have grows : 2 ^ 2 ≤ 2 ^ spec.exponentBits :=
    Nat.pow_le_pow_right (by decide) wide
  have bias := two_pow_exponentBits spec
  omega

theorem minExponent_eq (spec : Format) :
    spec.minExponent =
      1 - spec.exponentBias - spec.mantissaBitsWithoutImplicit := by
  have pos : 1 ≤ 2 ^ (spec.exponentBits - 1) := Nat.one_le_two_pow
  unfold Format.minExponent Format.exponentBias Format.mantissaBits
  rw [Nat.cast_sub pos]
  push_cast
  ring

theorem two_pow_mantissaBits (spec : Format) :
    2 ^ spec.mantissaBits = 2 * 2 ^ spec.mantissaBitsWithoutImplicit := by
  rw [Format.mantissaBits, Nat.pow_add]

/-! ## Components -/

theorem zero_ne_neg_one (spec : Format) :
    (BitVec.ofNat spec.exponentBits 0) ≠ -1#_ := by
  rw [Ne, BitVec.zero_eq_neg_one_iff]
  exact spec.he.ne'

/-- The leading bit of a full mantissa stands in front of the packed ones. -/
theorem toNat_one_append
    {width : Nat}
    (bits : BitVec width) :
    (1#1 ++ bits).toNat = 2 ^ width + bits.toNat := by
  rw [BitVec.toNat_append, ← Nat.shiftLeft_add_eq_or_of_lt bits.isLt]
  simp [Nat.shiftLeft_eq]

/-! ## Unpacking -/

/-- What is unpacked has the form and the range of its format. -/
theorem unpack_canonical
    {spec : Format}
    (wide : 2 ≤ spec.exponentBits)
    {bits : BitVec spec.numBits}
    {sign : Sign}
    {mantissa : Nat}
    {exponent : Int}
    {pos : 0 < mantissa}
    (unpacked : unpack spec bits = .finite sign mantissa exponent pos) :
    CanonicalForm spec mantissa exponent ∧ exponent ≤ maxExponent spec := by
  have bias := two_pow_exponentBits spec
  have some := one_le_exponentBias wide
  have double := two_pow_mantissaBits spec
  have finest := minExponent_eq spec
  have below := (unpackMantissa bits).isLt
  unfold unpack at unpacked
  dsimp only at unpacked
  split at unpacked
  · split at unpacked <;> cases unpacked
  · rename_i notAllOnes
    have notMax : (unpackExponent bits).toNat ≠ 2 ^ spec.exponentBits - 1 := by
      intro same
      apply notAllOnes
      apply BitVec.eq_of_toNat_eq
      rw [same, BitVec.neg_one_eq_allOnes, BitVec.toNat_allOnes]
    have inside := (unpackExponent bits).isLt
    split at unpacked
    · rename_i isZero
      split at unpacked
      · cases unpacked
      · cases unpacked
        have noExponent : (unpackExponent bits).toNat = 0 := by
          rw [isZero]
          rfl
        rw [noExponent]
        refine ⟨⟨by omega, by omega, .inr (by omega)⟩, ?_⟩
        unfold maxExponent
        omega
    · rename_i notZero
      cases unpacked
      have someExponent : (unpackExponent bits).toNat ≠ 0 := by
        intro same
        apply notZero
        apply BitVec.eq_of_toNat_eq
        rw [same]
        rfl
      rw [toNat_one_append]
      refine ⟨⟨by omega, by omega, .inl (by omega)⟩, ?_⟩
      unfold maxExponent
      omega

theorem canonical_unpack
    {spec : Format}
    (wide : 2 ≤ spec.exponentBits)
    (bits : BitVec spec.numBits) :
    Canonical spec (unpack spec bits) := by
  cases unpacked : unpack spec bits with
  | finite sign mantissa exponent pos =>
      exact (unpack_canonical wide unpacked).1
  | infinity sign => exact trivial
  | notANumber => exact trivial
  | zero sign => exact trivial

/-! ## Packing -/

@[simp] theorem stored_notANumber (spec : Format) :
    stored spec .notANumber = .notANumber :=
  unpack_packedNaN

@[simp] theorem stored_infinity
    (spec : Format)
    (sign : Sign) :
    stored spec (.infinity sign) = .infinity sign := by
  simp [stored, pack, packedInfinity, unpack]

@[simp] theorem stored_zero
    (spec : Format)
    (sign : Sign) :
    stored spec (.zero sign) = .zero sign :=
  unpack_packedZero

/-- A canonical number within the range is stored as it is. -/
theorem stored_of_le
    {spec : Format}
    {mantissa : Nat}
    {exponent : Int}
    (canonical : CanonicalForm spec mantissa exponent)
    (inRange : exponent ≤ maxExponent spec)
    (sign : Sign)
    (pos : 0 < mantissa) :
    stored spec (.finite sign mantissa exponent pos) =
      .finite sign mantissa exponent pos := by
  obtain ⟨fits, fine, full⟩ := canonical
  have bias := two_pow_exponentBits spec
  have double := two_pow_mantissaBits spec
  have finest := minExponent_eq spec
  unfold maxExponent at inRange
  generalize biasedShape :
    (exponent + spec.exponentBias +
      spec.mantissaBitsWithoutImplicit).toNat = biased
  have isBiased :
      (biased : Int) =
        exponent + spec.exponentBias + spec.mantissaBitsWithoutImplicit := by
    omega
  have noOverflow : ¬ 2 ^ spec.exponentBits ≤ biased + 1 := by omega
  have biasedNat : (BitVec.ofNat spec.exponentBits biased).toNat = biased := by
    rw [BitVec.toNat_ofNat, Nat.mod_eq_of_lt (by omega)]
  by_cases normal : 2 ^ spec.mantissaBitsWithoutImplicit ≤ mantissa
  · have log : mantissa.log2 + 1 = spec.mantissaBits := by
      have atLeast := (Nat.le_log2 pos.ne').mpr normal
      have atMost := (Nat.log2_lt pos.ne').mpr fits
      unfold Format.mantissaBits at atMost ⊢
      omega
    have notZero : BitVec.ofNat spec.exponentBits biased ≠ 0#_ := by
      intro same
      have sameNat := congrArg BitVec.toNat same
      rw [biasedNat, BitVec.toNat_zero] at sameNat
      omega
    have notAllOnes : BitVec.ofNat spec.exponentBits biased ≠ -1#_ := by
      intro same
      have sameNat := congrArg BitVec.toNat same
      rw [biasedNat, BitVec.neg_one_eq_allOnes, BitVec.toNat_allOnes]
        at sameNat
      omega
    have leading :
        (1#1 ++ BitVec.ofNat spec.mantissaBitsWithoutImplicit mantissa).toNat =
          mantissa := by
      rw [toNat_one_append, BitVec.toNat_ofNat, Nat.mod_eq_sub_mod normal,
        Nat.mod_eq_of_lt (by omega)]
      omega
    have packed :
        pack spec (.finite sign mantissa exponent pos) =
          packComponents spec sign (BitVec.ofNat _ biased)
            (BitVec.ofNat _ mantissa) := by
      simp only [pack, biasedShape]
      rw [if_neg noOverflow, if_pos log]
    simp only [stored, packed, unpack, unpackExponent_packComponents,
      unpackMantissa_packComponents, unpackSign_packComponents,
      Sign.ofBitVec_toBitVec, notZero, notAllOnes, if_false, biasedNat, leading]
    congr 1
    omega
  · have finestExponent := full.resolve_left normal
    have small : mantissa < 2 ^ spec.mantissaBitsWithoutImplicit := by omega
    have log : ¬ mantissa.log2 + 1 = spec.mantissaBits := by
      have atMost := (Nat.log2_lt pos.ne').mpr small
      unfold Format.mantissaBits
      omega
    have mantissaNat :
        (BitVec.ofNat spec.mantissaBitsWithoutImplicit mantissa).toNat =
          mantissa := by
      rw [BitVec.toNat_ofNat, Nat.mod_eq_of_lt small]
    have notZero :
        BitVec.ofNat spec.mantissaBitsWithoutImplicit mantissa ≠ 0#_ := by
      intro same
      have sameNat := congrArg BitVec.toNat same
      rw [mantissaNat, BitVec.toNat_zero] at sameNat
      omega
    have packed :
        pack spec (.finite sign mantissa exponent pos) =
          packComponents spec sign 0#_ (BitVec.ofNat _ mantissa) := by
      simp only [pack, biasedShape]
      rw [if_neg noOverflow, if_neg log]
    simp only [stored, packed, unpack, unpackExponent_packComponents,
      unpackMantissa_packComponents, unpackSign_packComponents,
      Sign.ofBitVec_toBitVec, zero_ne_neg_one, notZero, if_false, if_true,
      dite_false, mantissaNat, BitVec.toNat_zero]
    congr 1
    omega

/-- A canonical number beyond the range is stored as an infinity. -/
theorem stored_of_gt
    {spec : Format}
    {exponent : Int}
    (tooGreat : maxExponent spec < exponent)
    (sign : Sign)
    (mantissa : Nat)
    (pos : 0 < mantissa) :
    stored spec (.finite sign mantissa exponent pos) = .infinity sign := by
  have bias := two_pow_exponentBits spec
  unfold maxExponent at tooGreat
  have overflow :
      2 ^ spec.exponentBits ≤
        (exponent + spec.exponentBias +
          spec.mantissaBitsWithoutImplicit).toNat + 1 := by
    omega
  have packed :
      pack spec (.finite sign mantissa exponent pos) =
        packedInfinity spec sign := by
    simp only [pack]
    rw [if_pos overflow]
  rw [stored, packed]
  exact stored_infinity spec sign

theorem stored_unpack
    {spec : Format}
    (wide : 2 ≤ spec.exponentBits)
    {bits : BitVec spec.numBits}
    (valid : spec.Valid bits) :
    stored spec (unpack spec bits) = unpack spec bits := by
  unfold stored
  rw [pack_unpack_of_valid valid wide]

end Polyphony.Number
