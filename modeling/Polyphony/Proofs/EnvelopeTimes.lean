import Polyphony.Proofs.Number.Ranges
import Polyphony.Sound.Envelope

namespace Polyphony.Sound

/-!
# How long the stages of an envelope are

A time is counted in samples by one product that is rounded to a whole number.
Whatever the rate is, even one that is no number or is not finite, a longer time
is never counted as fewer samples.
-/

open Float.Model (Format UnpackedFloat)
open Float.Model.UnpackedFloat
open Number
open Number.FloatingPoint (spec unpack)

/-! ## Counting samples -/

/-- The number of samples of a product of a time and a rate. -/
def sampleCount (product : Float32) : Nat :=
  (larger (roundHalfAway product) 1).toUInt32.toNat

/-- The number of samples of a rational number of them. -/
def wholeSamples (exact : ℚ) : Nat :=
  min ⌊max (nearestUp exact) 1⌋.toNat (2 ^ 32 - 1)

theorem wholeSamples_mono
    {first second : ℚ}
    (ordered : first ≤ second) :
    wholeSamples first ≤ wholeSamples second := by
  have steps := max_le_max_right 1 (nearestUp_mono ordered)
  exact min_le_min_right _ (Int.toNat_le_toNat (Int.floor_le_floor steps))

theorem wholeSamples_of_nonpos
    {exact : ℚ}
    (nonpos : exact ≤ 0) :
    wholeSamples exact = 1 := by
  have atMost : nearestUp exact ≤ 1 := by
    have steps := nearestUp_mono nonpos
    have zero : nearestUp 0 = 0 := by norm_num [nearestUp]
    linarith
  unfold wholeSamples
  rw [max_eq_right atMost, Int.floor_one]
  rfl

theorem wholeSamples_of_ge
    {exact : ℚ}
    (great : 2 ^ 32 ≤ exact) :
    wholeSamples exact = 2 ^ 32 - 1 := by
  have same : nearestUp exact = exact := by
    unfold nearestUp
    rw [if_neg (not_lt.mpr (le_trans (by norm_num) great))]
  have floor : (2 ^ 32 : ℤ) ≤ ⌊max exact 1⌋ := by
    rw [Int.le_floor]
    exact le_max_of_le_left (by exact_mod_cast great)
  unfold wholeSamples
  rw [same]
  omega

/-- A finite product is counted as the number that it is. -/
theorem sampleCount_eq
    {product : Float32}
    {exact : ℚ}
    (isExact : Is product exact) :
    sampleCount product = wholeSamples exact := by
  have isLarger := isExact.roundHalfAway.larger is_one
  unfold sampleCount
  rw [isLarger.toUInt32 (le_max_of_le_right zero_le_one)]
  split
  · rename_i negative
    have zero : nearestUp 0 = 0 := by norm_num [nearestUp]
    have opposite : 0 ≤ nearestUp (-exact) := by
      have steps := nearestUp_mono (neg_nonneg.mpr negative.le)
      rwa [zero] at steps
    rw [max_eq_right (by linarith), Int.floor_one,
      wholeSamples_of_nonpos negative.le]
    rfl
  · rfl

/-! ## Products that are not finite -/

theorem roundHalfAway_of_not_finite
    {value : Float32}
    (notFinite : (unpack value).isFinite = false) :
    roundHalfAway value = value := by
  have bound :
      unpack (8388608 : Float32) = .finite .positive (2 ^ 23) 0 (by decide) :=
    rfl
  have parts :
      unpack value.abs =
        stored (spec Float32) (UnpackedFloat.abs (unpack value)) :=
    rfl
  have notSmall : ¬ value.abs < 8388608 := by
    rw [FloatingPoint.lt_iff, bound, parts]
    cases same : unpack value with
    | infinity sign =>
        rw [UnpackedFloat.abs, stored_infinity]
        decide
    | notANumber =>
        rw [UnpackedFloat.abs, stored_notANumber]
        decide
    | zero sign =>
        rw [same] at notFinite
        cases notFinite
    | finite sign mantissa exponent pos =>
        rw [same] at notFinite
        cases notFinite
  unfold roundHalfAway
  rw [if_neg notSmall]

theorem one_lt_iff
    {product : Float32} :
    product > 1 ↔
      UnpackedFloat.lt (.finite .positive (2 ^ 23) (-23) (by decide))
        (unpack product) = true :=
  FloatingPoint.lt_iff 1 product

/-- What is neither finite nor above one is counted as one sample. -/
theorem sampleCount_of_not_greater
    {product : Float32}
    (notFinite : (unpack product).isFinite = false)
    (notGreater : ¬ product > 1) :
    sampleCount product = 1 := by
  unfold sampleCount larger
  rw [roundHalfAway_of_not_finite notFinite, is_one.isNaN,
    if_neg Bool.false_ne_true, if_neg notGreater]
  rfl

theorem sampleCount_notANumber
    {product : Float32}
    (parts : unpack product = .notANumber) :
    sampleCount product = 1 := by
  have notGreater : ¬ product > 1 := by
    rw [one_lt_iff, parts]
    decide
  exact sampleCount_of_not_greater (by rw [parts]; rfl) notGreater

theorem sampleCount_negativeInfinity
    {product : Float32}
    (parts : unpack product = .infinity .negative) :
    sampleCount product = 1 := by
  have notGreater : ¬ product > 1 := by
    rw [one_lt_iff, parts]
    decide
  exact sampleCount_of_not_greater (by rw [parts]; rfl) notGreater

/-- An infinite product is counted as the greatest number of samples. -/
theorem sampleCount_infinity
    {product : Float32}
    (parts : unpack product = .infinity .positive) :
    sampleCount product = 2 ^ 32 - 1 := by
  have greater : product > 1 := by
    rw [one_lt_iff, parts]
    decide
  have whole :
      product.toUInt32 =
        UInt32.ofNatClamp
          ((unpack product).toInt 0 (UInt32.size - 1)).toNat :=
    rfl
  unfold sampleCount larger
  rw [roundHalfAway_of_not_finite (by rw [parts]; rfl), is_one.isNaN,
    if_neg Bool.false_ne_true, if_pos greater, whole, toNat_ofNatClamp_uInt32,
    parts]
  decide

theorem one_le_wholeSamples (exact : ℚ) :
    1 ≤ wholeSamples exact := by
  have floor : 1 ≤ ⌊max (nearestUp exact) 1⌋ := by
    rw [Int.le_floor]
    exact le_max_right _ _
  unfold wholeSamples
  omega

/-- Whatever a product is, it is counted as one sample at least. -/
theorem one_le_sampleCount (product : Float32) :
    1 ≤ sampleCount product := by
  cases parts : unpack product with
  | infinity sign =>
      cases sign with
      | negative => rw [sampleCount_negativeInfinity parts]
      | positive =>
          rw [sampleCount_infinity parts]
          decide
  | notANumber => rw [sampleCount_notANumber parts]
  | zero sign =>
      have finite : (unpack product).isFinite = true := by rw [parts]; rfl
      obtain ⟨exact, isExact⟩ := exists_is finite
      rw [sampleCount_eq isExact]
      exact one_le_wholeSamples exact
  | finite sign mantissa exponent pos =>
      have finite : (unpack product).isFinite = true := by rw [parts]; rfl
      obtain ⟨exact, isExact⟩ := exists_is finite
      rw [sampleCount_eq isExact]
      exact one_le_wholeSamples exact

theorem sampleCount_le (product : Float32) :
    sampleCount product ≤ 2 ^ 32 - 1 := by
  have word := (larger (roundHalfAway product) 1).toUInt32.toNat_lt
  unfold sampleCount
  omega

/-! ## Longer times -/

/-- A finite time at a finite rate, even if their product is too great. -/
theorem sampleCount_mul
    {seconds rate : Float32}
    {time perSecond : ℚ}
    (isTime : Is seconds time)
    (isRate : Is rate perSecond) :
    sampleCount (seconds * rate) =
      wholeSamples (rounded (spec Float32) (time * perSecond)) := by
  have product := Denotes.mul isTime isRate
  have parts := FloatingPoint.unpack_mul seconds rate
  have great : (2 : ℚ) ^ (32 : ℤ) ≤ overflow (spec Float32) :=
    zpow_le_zpow_right₀ (by decide) (by decide)
  rcases stored_eq FloatingPoint.wide product with
    ⟨-, same⟩ | ⟨above, isInfinity⟩ | ⟨below, isInfinity⟩
  · rw [same] at parts
    apply sampleCount_eq
    unfold Is
    rwa [parts]
  · rw [isInfinity] at parts
    rw [sampleCount_infinity parts, wholeSamples_of_ge (great.trans above)]
  · rw [isInfinity] at parts
    have nonpos : rounded (spec Float32) (time * perSecond) ≤ 0 := by
      have positive : (0 : ℚ) < 2 ^ 32 := by norm_num
      linarith
    rw [sampleCount_negativeInfinity parts, wholeSamples_of_nonpos nonpos]

/-- A finite time at no rate, or against it, is counted as one sample. -/
theorem sampleCount_of_nonpos
    {seconds rate : Float32}
    {time perSecond : ℚ}
    (isTime : Is seconds time)
    (isRate : Is rate perSecond)
    (positive : 0 < time)
    (nonpos : perSecond ≤ 0) :
    sampleCount (seconds * rate) = 1 := by
  have product : time * perSecond ≤ 0 :=
    mul_nonpos_of_nonneg_of_nonpos positive.le nonpos
  have isRounded :
      rounded (spec Float32) (time * perSecond) ≤ rounded (spec Float32) 0 :=
    rounded_mono product
  rw [rounded_zero] at isRounded
  rw [sampleCount_mul isTime isRate, wholeSamples_of_nonpos isRounded]

/-! ## Times and rates that are not finite -/

theorem positive_parts
    {value : Float32}
    {exact : ℚ}
    (isExact : Is value exact)
    (positive : 0 < exact) :
    ∃ mantissa exponent pos,
      unpack value = .finite .positive mantissa exponent pos := by
  unfold Is at isExact
  generalize unpack value = parts at isExact
  cases isExact with
  | zero sign => exact absurd positive (lt_irrefl 0)
  | @finite mantissa exponent canonical sign pos =>
      cases sign with
      | negative =>
          have magnitude : (0 : ℚ) < mantissa * 2 ^ exponent := by positivity
          rw [signed_negative] at positive
          linarith
      | positive => exact ⟨mantissa, exponent, pos, rfl⟩

/-- A positive time, which may be without end. -/
inductive IsTime (seconds : Float32) : Prop where
  | finite
      {time : ℚ}
      (isTime : Is seconds time)
      (positive : 0 < time)
  | endless (parts : unpack seconds = .infinity .positive)

theorem IsTime.mul_infinity
    {seconds rate : Float32}
    {sign : Sign}
    (isTime : IsTime seconds)
    (rateParts : unpack rate = .infinity sign) :
    unpack (seconds * rate) = .infinity sign := by
  rw [FloatingPoint.unpack_mul, rateParts]
  cases isTime with
  | finite isTime positive =>
      obtain ⟨mantissa, exponent, pos, parts⟩ :=
        positive_parts isTime positive
      rw [parts]
      cases sign <;> exact stored_infinity _ _
  | endless parts =>
      rw [parts]
      cases sign <;> exact stored_infinity _ _

theorem mul_notANumber
    {seconds rate : Float32}
    (parts : unpack rate = .notANumber) :
    unpack (seconds * rate) = .notANumber := by
  rw [FloatingPoint.unpack_mul, parts]
  cases unpack seconds <;> exact stored_notANumber _

theorem endless_mul
    {seconds rate : Float32}
    {perSecond : ℚ}
    (endless : unpack seconds = .infinity .positive)
    (isRate : Is rate perSecond)
    (positive : 0 < perSecond) :
    unpack (seconds * rate) = .infinity .positive := by
  obtain ⟨mantissa, exponent, pos, parts⟩ := positive_parts isRate positive
  rw [FloatingPoint.unpack_mul, endless, parts]
  exact stored_infinity _ _

/-- More time at the same rate is not counted as fewer samples. -/
theorem sampleCount_mono
    {shorter longer rate : Float32}
    {time : ℚ}
    (isShorter : Is shorter time)
    (positive : 0 < time)
    (isLonger : IsTime longer)
    (less : shorter < longer) :
    sampleCount (shorter * rate) ≤ sampleCount (longer * rate) := by
  have shorterIsTime := IsTime.finite isShorter positive
  have atLeastOne := one_le_sampleCount (longer * rate)
  have isFiniteRate :
      ∀ {perSecond : ℚ},
        Is rate perSecond →
          sampleCount (shorter * rate) ≤ sampleCount (longer * rate) := by
    intro perSecond isRate
    rcases le_or_gt perSecond 0 with nonpos | ratePositive
    · rwa [sampleCount_of_nonpos isShorter isRate positive nonpos]
    · cases isLonger with
      | endless parts =>
          rw [sampleCount_infinity (endless_mul parts isRate ratePositive)]
          exact sampleCount_le _
      | @finite longerTime isTime _ =>
          have times := ((isShorter.lt_iff isTime).mp less).le
          rw [sampleCount_mul isShorter isRate, sampleCount_mul isTime isRate]
          exact wholeSamples_mono
            (rounded_mono (mul_le_mul_of_nonneg_right times ratePositive.le))
  cases parts : unpack rate with
  | notANumber => rwa [sampleCount_notANumber (mul_notANumber parts)]
  | infinity sign =>
      cases sign with
      | negative =>
          rwa [sampleCount_negativeInfinity (shorterIsTime.mul_infinity parts)]
      | positive =>
          rw [sampleCount_infinity (isLonger.mul_infinity parts)]
          exact sampleCount_le _
  | zero sign =>
      obtain ⟨perSecond, isRate⟩ := exists_is (by rw [parts]; rfl)
      exact isFiniteRate isRate
  | finite sign mantissa exponent pos =>
      obtain ⟨perSecond, isRate⟩ := exists_is (by rw [parts]; rfl)
      exact isFiniteRate isRate

/-! ## The samples of a time -/

theorem is_shortestTime :
    ∃ shortest, Is shortestTime shortest ∧ 0 < shortest := by
  have finite : (unpack shortestTime).isFinite = true := by decide +kernel
  obtain ⟨shortest, isShortest⟩ := exists_is finite
  have isZero : Is (0 : Float32) (0 : ℕ) := Single.is_ofNat_of_le (by decide)
  have above : (0 : Float32) < shortestTime := by decide +kernel
  have positive := (isZero.lt_iff isShortest).mp above
  exact ⟨shortest, isShortest, by simpa using positive⟩

/-- What is less than a number, and not than a finite one, is finite itself. -/
theorem exists_is_of_lt
    {bound shorter longer : Float32}
    {least : ℚ}
    (isBound : Is bound least)
    (less : shorter < longer)
    (notBelow : ¬ shorter < bound) :
    ∃ time, Is shorter time ∧ least ≤ time := by
  have finite : (unpack shorter).isFinite = true := by
    rw [FloatingPoint.lt_iff] at less notBelow
    cases parts : unpack shorter with
    | zero sign => rfl
    | finite sign mantissa exponent pos => rfl
    | notANumber =>
        rw [parts, notANumber_lt] at less
        cases less
    | infinity sign =>
        cases sign with
        | negative =>
            rw [parts] at notBelow
            exact absurd (Denotes.negativeInfinity_lt isBound) notBelow
        | positive =>
            rw [parts, infinity_lt] at less
            cases less
  obtain ⟨time, isTime⟩ := exists_is finite
  exact ⟨time, isTime, not_lt.mp (notBelow ∘ (isTime.lt_iff isBound).mpr)⟩

/-- What is greater than a positive number is a time, too. -/
theorem isTime_of_lt
    {shorter longer : Float32}
    {time : ℚ}
    (isShorter : Is shorter time)
    (positive : 0 < time)
    (less : shorter < longer) :
    IsTime longer := by
  have finite :
      (unpack longer).isFinite = true → IsTime longer := by
    intro isFinite
    obtain ⟨longerTime, isLonger⟩ := exists_is isFinite
    exact .finite isLonger (positive.trans ((isShorter.lt_iff isLonger).mp less))
  rw [FloatingPoint.lt_iff] at less
  cases parts : unpack longer with
  | zero sign => exact finite (by rw [parts]; rfl)
  | finite sign mantissa exponent pos => exact finite (by rw [parts]; rfl)
  | notANumber =>
      rw [parts, lt_notANumber] at less
      cases less
  | infinity sign =>
      cases sign with
      | negative =>
          rw [parts, lt_negativeInfinity] at less
          cases less
      | positive => exact .endless parts

namespace Envelope

/-- Of two times the longer one does not last for fewer samples. -/
theorem samplesFor_mono
    {shorter longer : Float32}
    (less : shorter < longer)
    (envelope : Envelope) :
    envelope.samplesFor shorter ≤ envelope.samplesFor longer := by
  obtain ⟨shortest, isShortest, positive⟩ := is_shortestTime
  unfold samplesFor
  by_cases tooShort : shorter < shortestTime
  · rw [if_pos tooShort]
    exact Nat.zero_le _
  · obtain ⟨time, isShorter, atLeast⟩ :=
      exists_is_of_lt isShortest less tooShort
    have timePositive := lt_of_lt_of_le positive atLeast
    have isLonger := isTime_of_lt isShorter timePositive less
    have longEnough : ¬ longer < shortestTime := by
      intro tooShortLonger
      cases isLonger with
      | finite isTime _ =>
          have below := (isTime.lt_iff isShortest).mp tooShortLonger
          have above := (isShorter.lt_iff isTime).mp less
          linarith
      | endless parts =>
          rw [FloatingPoint.lt_iff, parts, infinity_lt] at tooShortLonger
          cases tooShortLonger
    rw [if_neg tooShort, if_neg longEnough]
    exact sampleCount_mono isShorter timePositive isLonger less

/-- The shorter of two times does not last for more samples than the second. -/
theorem samplesFor_smaller
    (seconds : Float32)
    {most : Float32}
    (isNumber : most.isNaN = false)
    (envelope : Envelope) :
    envelope.samplesFor (smaller seconds most) ≤ envelope.samplesFor most := by
  unfold smaller
  rw [isNumber, if_neg Bool.false_ne_true]
  split
  · rename_i less
    exact envelope.samplesFor_mono less
  · exact Nat.le_refl _

theorem one_le_samplesFor
    {seconds : Float32}
    (longEnough : ¬ seconds < shortestTime)
    (envelope : Envelope) :
    1 ≤ envelope.samplesFor seconds := by
  unfold samplesFor
  rw [if_neg longEnough]
  exact one_le_sampleCount _

/-! ## The rate of an envelope -/

/-- Envelopes of one rate count a time alike. -/
theorem samplesFor_congr
    {first second : Envelope}
    (sameRate : first.sampleRate = second.sampleRate)
    (seconds : Float32) :
    first.samplesFor seconds = second.samplesFor seconds := by
  unfold samplesFor
  rw [sameRate]

theorem sampleRate_enterRamp
    {onward : Envelope → Envelope}
    (keeps : ∀ passed, (onward passed).sampleRate = passed.sampleRate)
    (stage : EnvelopeStage)
    (target seconds : Float32)
    (envelope : Envelope) :
    (enterRamp stage target seconds onward envelope).sampleRate =
      envelope.sampleRate := by
  unfold enterRamp
  dsimp only
  split
  · exact keeps _
  · rfl

theorem sampleRate_enterSustain (envelope : Envelope) :
    envelope.enterSustain.sampleRate = envelope.sampleRate := by
  unfold enterSustain
  split <;> rfl

theorem sampleRate_enterDecay (envelope : Envelope) :
    envelope.enterDecay.sampleRate = envelope.sampleRate :=
  sampleRate_enterRamp sampleRate_enterSustain _ _ _ envelope

theorem sampleRate_enterHold (envelope : Envelope) :
    envelope.enterHold.sampleRate = envelope.sampleRate :=
  sampleRate_enterRamp sampleRate_enterDecay _ _ _ envelope

theorem sampleRate_enterAttack (envelope : Envelope) :
    envelope.enterAttack.sampleRate = envelope.sampleRate :=
  sampleRate_enterRamp sampleRate_enterHold _ _ _ envelope

@[simp] theorem sampleRate_noteOn
    (parameters : EnvelopeParameters)
    (envelope : Envelope) :
    (envelope.noteOn parameters).sampleRate = envelope.sampleRate :=
  sampleRate_enterRamp sampleRate_enterAttack _ _ _ _

@[simp] theorem sampleRate_startRelease
    (seconds : Float32)
    (envelope : Envelope) :
    (envelope.startRelease seconds).sampleRate = envelope.sampleRate := by
  unfold startRelease
  dsimp only
  split <;> rfl

@[simp] theorem sampleRate_noteOff (envelope : Envelope) :
    envelope.noteOff.sampleRate = envelope.sampleRate := by
  unfold noteOff
  split <;> simp

@[simp] theorem sampleRate_forceRelease
    (seconds : Float32)
    (envelope : Envelope) :
    (envelope.forceRelease seconds).sampleRate = envelope.sampleRate := by
  unfold forceRelease
  split
  · rfl
  · split <;> simp
  · simp

theorem sampleRate_enterNext (envelope : Envelope) :
    envelope.enterNext.sampleRate = envelope.sampleRate := by
  unfold enterNext
  split
  · exact sampleRate_enterAttack envelope
  · exact sampleRate_enterHold envelope
  · exact sampleRate_enterDecay envelope
  · exact sampleRate_enterSustain envelope
  · exact sampleRate_enterSustain envelope
  · rfl
  · rfl

theorem sampleRate_next (envelope : Envelope) :
    envelope.next.sampleRate = envelope.sampleRate := by
  unfold next stepRamp
  split
  · rfl
  · rfl
  · dsimp only
    split
    · exact sampleRate_enterNext _
    · rfl

@[simp] theorem sampleRate_levels
    (count : Nat)
    (envelope : Envelope) :
    (envelope.levels count).2.sampleRate = envelope.sampleRate := by
  induction count generalizing envelope with
  | zero => rfl
  | succ count inductionHypothesis =>
      exact (inductionHypothesis envelope.next).trans (sampleRate_next envelope)

end Envelope

end Polyphony.Sound
