import Polyphony.Proofs.EnvelopeTimes

namespace Polyphony.Sound

/-!
# The levels of an envelope

Whatever times and levels a note is given, its envelope makes usable ones of
them.  From then on the level lies between silence and full, and so do the
targets of all ramps, whose steps are finite.
-/

open Number
open Number.FloatingPoint (spec unpack)

namespace EnvelopeParameters

/-- A level is taken as it is, or restricted to what can be followed. -/
theorem usableLevel_inUnit (level : Float32) :
    InUnit (usableLevel level) := by
  unfold usableLevel
  split
  · rename_i finite
    obtain ⟨exact, isExact⟩ := Single.isFinite_iff.mp finite
    exact clamp_inUnit isExact.isNaN
  · exact inUnit_one

end EnvelopeParameters

namespace Envelope

/-- The level and the target lie between silence and full, a finite step apart. -/
structure InRange (envelope : Envelope) : Prop where
  level : InUnit envelope.level
  target : InUnit envelope.target
  sustain : InUnit envelope.parameters.sustain
  step : ∃ exact, Is envelope.step exact

theorem samplesFor_lt
    (seconds : Float32)
    (envelope : Envelope) :
    envelope.samplesFor seconds < 2 ^ 32 := by
  unfold samplesFor
  split
  · decide
  · exact UInt32.toNat_lt _

/-- The step of a ramp between two levels is finite. -/
theorem exists_is_step
    {level target : Float32}
    {samples : Nat}
    (fromLevel : InUnit level)
    (toTarget : InUnit target)
    (some : samples ≠ 0)
    (few : samples < 2 ^ 32) :
    ∃ exact, Is ((target - level) / Float32.ofNat samples) exact := by
  obtain ⟨distance, isDistance, small⟩ :=
    toTarget.within.sub fromLevel.within (by decide)
  have inRange : (samples : ℚ) ≤ limit (spec Float32) := by
    have cast : (samples : ℚ) ≤ 2 ^ 32 := by exact_mod_cast few.le
    exact cast.trans (two_pow_le_limit (by decide))
  have isCount := Single.is_ofNat inRange
  have atLeastOne : 1 ≤ rounded (spec Float32) samples := by
    have oneSample : (1 : ℚ) ≤ samples := by
      exact_mod_cast Nat.one_le_iff_ne_zero.mpr some
    have steps :
        rounded (spec Float32) 1 ≤ rounded (spec Float32) samples :=
      rounded_mono oneSample
    have one : Representable (spec Float32) 1 := by
      simpa using Representable.two_pow 0
    rwa [one.rounded_eq] at steps
  have positive : 0 < rounded (spec Float32) samples :=
    lt_of_lt_of_le one_pos atLeastOne
  have quotient :
      |distance / rounded (spec Float32) samples| ≤ limit (spec Float32) := by
    rw [abs_div, abs_of_pos positive]
    calc
      |distance| / rounded (spec Float32) samples ≤ |distance| :=
        div_le_self (abs_nonneg distance) atLeastOne
      _ ≤ 2 ^ (0 + 1) := small
      _ ≤ limit (spec Float32) := two_pow_le_limit (by decide)
  exact ⟨_, isDistance.div isCount positive.ne' quotient⟩

namespace InRange

variable {envelope : Envelope}

theorem new (sampleRate : Float32) : (Envelope.new sampleRate).InRange where
  level := inUnit_zero
  target := inUnit_zero
  sustain := inUnit_one
  step := ⟨0, is_zero⟩

theorem withStage
    (inRange : envelope.InRange)
    (stage : EnvelopeStage) :
    InRange { envelope with stage := stage } :=
  ⟨inRange.level, inRange.target, inRange.sustain, inRange.step⟩

theorem withLevel
    {level : Float32}
    (inRange : envelope.InRange)
    (inUnit : InUnit level) :
    InRange { envelope with level := level } :=
  ⟨inUnit, inRange.target, inRange.sustain, inRange.step⟩

theorem reset (inRange : envelope.InRange) :
    envelope.reset.InRange :=
  ⟨inUnit_zero, inRange.target, inRange.sustain, 0, is_zero⟩

/-! ## Entering stages -/

theorem rampTo
    {target : Float32}
    (inRange : envelope.InRange)
    (inUnit : InUnit target)
    (seconds : Float32) :
    (envelope.rampTo target seconds).InRange := by
  refine ⟨inRange.level, inUnit, inRange.sustain, ?_⟩
  simp only [Envelope.rampTo]
  split
  · exact ⟨0, is_zero⟩
  · rename_i some
    exact exists_is_step inRange.level inUnit some
      (envelope.samplesFor_lt seconds)

theorem enterRamp
    {target : Float32}
    {onward : Envelope → Envelope}
    (inRange : envelope.InRange)
    (inUnit : InUnit target)
    (stage : EnvelopeStage)
    (seconds : Float32)
    (keeps :
      ∀ {passed : Envelope},
        passed.InRange →
        (onward passed).InRange) :
    (Envelope.enterRamp stage target seconds onward envelope).InRange := by
  have ramping := (inRange.withStage stage).rampTo inUnit seconds
  unfold Envelope.enterRamp
  dsimp only
  split
  · exact keeps (ramping.withLevel inUnit)
  · exact ramping

theorem enterSustain (inRange : envelope.InRange) :
    envelope.enterSustain.InRange := by
  unfold Envelope.enterSustain
  split
  · exact inRange.reset
  · exact ⟨inRange.sustain, inRange.target, inRange.sustain, inRange.step⟩

theorem enterDecay (inRange : envelope.InRange) :
    envelope.enterDecay.InRange :=
  inRange.enterRamp inRange.sustain _ _ enterSustain

theorem enterHold (inRange : envelope.InRange) :
    envelope.enterHold.InRange :=
  inRange.enterRamp inUnit_one _ _ enterDecay

theorem enterAttack (inRange : envelope.InRange) :
    envelope.enterAttack.InRange :=
  inRange.enterRamp inUnit_one _ _ enterHold

theorem enterDelay (inRange : envelope.InRange) :
    envelope.enterDelay.InRange :=
  inRange.enterRamp inUnit_zero _ _ enterAttack

theorem enterNext (inRange : envelope.InRange) :
    envelope.enterNext.InRange := by
  unfold Envelope.enterNext
  split
  · exact inRange.enterAttack
  · exact inRange.enterHold
  · exact inRange.enterDecay
  · exact inRange.enterSustain
  · exact inRange.enterSustain
  · exact inRange.reset
  · exact inRange.reset

/-- A note has a usable level to sustain, whatever level it is given. -/
theorem noteOn
    (inRange : envelope.InRange)
    (parameters : EnvelopeParameters) :
    (envelope.noteOn parameters).InRange := by
  apply enterDelay
  exact ⟨inUnit_zero, inRange.target,
    EnvelopeParameters.usableLevel_inUnit parameters.sustain, inRange.step⟩

/-! ## Releases -/

theorem startRelease
    (inRange : envelope.InRange)
    (seconds : Float32) :
    (envelope.startRelease seconds).InRange := by
  have ramping := (inRange.withStage .release).rampTo inUnit_zero seconds
  unfold Envelope.startRelease
  dsimp only
  split
  · exact ramping.reset
  · exact ramping

theorem noteOff (inRange : envelope.InRange) :
    envelope.noteOff.InRange := by
  unfold Envelope.noteOff
  split
  · exact inRange
  · exact inRange
  · exact inRange.startRelease _

theorem forceRelease
    (inRange : envelope.InRange)
    (seconds : Float32) :
    (envelope.forceRelease seconds).InRange := by
  unfold Envelope.forceRelease
  split
  · exact inRange
  · split
    · exact inRange.startRelease seconds
    · exact inRange
  · exact inRange.startRelease _

/-! ## Samples -/

/-- A step from a level leads to a number, which is then restricted. -/
theorem stepRamp (inRange : envelope.InRange) :
    envelope.stepRamp.InRange := by
  obtain ⟨level, isLevel⟩ := inRange.level.finite
  obtain ⟨step, isStep⟩ := inRange.step
  have stepped : InUnit (clamp 0 1 (envelope.level + envelope.step)) :=
    clamp_inUnit (isLevel.isNaN_add isStep)
  unfold Envelope.stepRamp
  dsimp only
  split
  · apply enterNext
    exact ⟨inRange.target, inRange.target, inRange.sustain, inRange.step⟩
  · exact ⟨stepped, inRange.target, inRange.sustain, inRange.step⟩

theorem next (inRange : envelope.InRange) :
    envelope.next.InRange := by
  unfold Envelope.next
  split
  · exact inRange.withLevel inUnit_zero
  · exact inRange.withLevel inRange.sustain
  · exact inRange.stepRamp

theorem levels
    (inRange : envelope.InRange)
    (count : Nat) :
    (envelope.levels count).2.InRange := by
  induction count generalizing envelope with
  | zero => exact inRange
  | succ count inductionHypothesis => exact inductionHypothesis inRange.next

end InRange

end Envelope

end Polyphony.Sound
