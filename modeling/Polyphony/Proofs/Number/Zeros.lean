import Polyphony.Proofs.Number.Nearest
import Polyphony.Sound.Mixing

namespace Polyphony.Number

/-!
# Zeros of either sign

To add a zero changes nothing but perhaps the sign of another zero, and that
sign is lost when the sum is scaled and becomes output.
-/

open Float.Model (Format UnpackedFloat)
open Float.Model.UnpackedFloat
open FloatingPoint (spec unpack)

/-- A machine number has no other parts than its sign, mantissa and exponent. -/
theorem eq_of_unpack_eq
    {first second : Float32}
    (same : unpack first = unpack second) :
    first = second := by
  have sameBits :=
    (unpack_inj_of_valid first.toModel.valid second.toModel.valid).mp same
  exact Float32.toBits_inj.mp (UInt32.toBitVec_inj.mp sameBits)

theorem is_zero_of_parts
    {value : Float32}
    {sign : Sign}
    (parts : unpack value = .zero sign) :
    Is value 0 := by
  unfold Is
  rw [parts]
  exact .zero sign

/-- The sum of two zeros is a zero. -/
theorem exists_add_zeros
    (format : Format)
    (first second : Sign) :
    ∃ sign,
      UnpackedFloat.add format (.zero first) (.zero second) = .zero sign := by
  cases first <;> cases second <;> exact ⟨_, rfl⟩

/-- Two values are the same, or both are a zero, of whatever signs. -/
def SameNumber (first second : Float32) : Prop :=
  first = second ∨ Is first 0 ∧ Is second 0

namespace SameNumber

variable {first second third : Float32}

theorem refl (value : Float32) :
    SameNumber value value :=
  .inl rfl

theorem trans
    (earlier : SameNumber first second)
    (later : SameNumber second third) :
    SameNumber first third := by
  rcases earlier with same | ⟨firstZero, secondZero⟩
  · subst second
    exact later
  · rcases later with same | ⟨-, thirdZero⟩
    · subst third
      exact .inr ⟨firstZero, secondZero⟩
    · exact .inr ⟨firstZero, thirdZero⟩

/-- Two stored results are the same number if what they store is. -/
theorem of_stored
    {number other : UnpackedFloat}
    (firstParts : unpack first = stored (spec Float32) number)
    (secondParts : unpack second = stored (spec Float32) other)
    (same :
      number = other ∨
        ∃ sign otherSign, number = .zero sign ∧ other = .zero otherSign) :
    SameNumber first second := by
  rcases same with equal | ⟨sign, otherSign, isZero, otherIsZero⟩
  · rw [equal, ← secondParts] at firstParts
    exact .inl (eq_of_unpack_eq firstParts)
  · rw [isZero, stored_zero] at firstParts
    rw [otherIsZero, stored_zero] at secondParts
    exact .inr ⟨is_zero_of_parts firstParts, is_zero_of_parts secondParts⟩

/-- A zero that is added makes no other number of a sum. -/
theorem add_zero
    {zero : Float32}
    (isZero : Is zero 0)
    (value : Float32) :
    SameNumber (value + zero) value := by
  obtain ⟨zeroSign, zeroParts⟩ := zero_parts isZero
  have stores := FloatingPoint.stored_unpack value
  apply of_stored (FloatingPoint.unpack_add value zero) stores.symm
  rw [zeroParts]
  cases unpack value with
  | zero sign =>
      obtain ⟨sum, isSum⟩ := exists_add_zeros (spec Float32) sign zeroSign
      exact .inr ⟨sum, sign, isSum, rfl⟩
  | infinity sign => exact .inl rfl
  | notANumber => exact .inl rfl
  | finite sign mantissa exponent pos => exact .inl rfl

/-- The same numbers have the same sums with any other. -/
theorem add
    (same : SameNumber first second)
    (value : Float32) :
    SameNumber (first + value) (second + value) := by
  rcases same with equal | ⟨firstZero, secondZero⟩
  · rw [equal]
    exact .refl _
  · obtain ⟨sign, parts⟩ := zero_parts firstZero
    obtain ⟨otherSign, otherParts⟩ := zero_parts secondZero
    apply of_stored (FloatingPoint.unpack_add first value)
      (FloatingPoint.unpack_add second value)
    rw [parts, otherParts]
    cases unpack value with
    | zero valueSign =>
        obtain ⟨sum, isSum⟩ := exists_add_zeros (spec Float32) sign valueSign
        obtain ⟨other, isOther⟩ :=
          exists_add_zeros (spec Float32) otherSign valueSign
        exact .inr ⟨sum, other, isSum, isOther⟩
    | infinity valueSign => exact .inl rfl
    | notANumber => exact .inl rfl
    | finite valueSign mantissa exponent pos => exact .inl rfl

/-- The same numbers have the same products with any other. -/
theorem mul
    (same : SameNumber first second)
    (factor : Float32) :
    SameNumber (first * factor) (second * factor) := by
  rcases same with equal | ⟨firstZero, secondZero⟩
  · rw [equal]
    exact .refl _
  · obtain ⟨sign, parts⟩ := zero_parts firstZero
    obtain ⟨otherSign, otherParts⟩ := zero_parts secondZero
    apply of_stored (FloatingPoint.unpack_mul first factor)
      (FloatingPoint.unpack_mul second factor)
    rw [parts, otherParts]
    cases unpack factor with
    | zero factorSign => exact .inr ⟨_, _, rfl, rfl⟩
    | infinity factorSign => exact .inl rfl
    | notANumber => exact .inl rfl
    | finite factorSign mantissa exponent pos => exact .inr ⟨_, _, rfl, rfl⟩

theorem eq_zero_or_negative_zero
    {value : Float32}
    (isZero : Is value 0) :
    value = 0 ∨ value = -0 := by
  obtain ⟨sign, parts⟩ := zero_parts isZero
  cases sign with
  | positive => exact .inl (eq_of_unpack_eq parts)
  | negative => exact .inr (eq_of_unpack_eq parts)

/-- The sign of a zero is lost in the output. -/
theorem toSample_eq (same : SameNumber first second) :
    Sound.toSample first = Sound.toSample second := by
  have ofZero :
      ∀ {value : Float32},
        Is value 0 →
        Sound.toSample value = 0 := by
    intro value isZero
    rcases eq_zero_or_negative_zero isZero with positive | negative
    · rw [positive]
      decide +kernel
    · rw [negative]
      decide +kernel
  rcases same with equal | ⟨firstZero, secondZero⟩
  · rw [equal]
  · rw [ofZero firstZero, ofZero secondZero]

end SameNumber

end Polyphony.Number
