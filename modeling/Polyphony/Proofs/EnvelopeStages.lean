import Polyphony.Sound.Envelope

namespace Polyphony.Sound

/-!
# The course of an envelope

The stages of an envelope come in one order, and a stage of no samples may be
left out.  While its key is held an envelope never enters its release, and
nothing but rest comes after that.  No fact here is about numbers: each holds
for all times, levels and rates.
-/

namespace EnvelopeStage

/-- Whether the full level is still to be reached. -/
def isRising : EnvelopeStage → Bool
  | .delay | .attack => true
  | _ => false

/-- Whether the full level has been reached, and the key is held. -/
def isSettled : EnvelopeStage → Bool
  | .hold | .decay | .sustain => true
  | _ => false

/-- Whether the key has been released. -/
def isFading : EnvelopeStage → Bool
  | .release | .idle => true
  | _ => false

end EnvelopeStage

namespace Envelope

open EnvelopeStage

/-! ## The ways on -/

@[simp] theorem stage_reset (envelope : Envelope) :
    envelope.reset.stage = .idle := by
  rfl

/-- A ramp that is begun is under way, or was too short to be entered. -/
theorem stage_enterRamp
    (allowed : EnvelopeStage → Prop)
    {stage : EnvelopeStage}
    {onward : Envelope → Envelope}
    (entered : allowed stage)
    (beyond : ∀ passed, allowed (onward passed).stage)
    (target seconds : Float32)
    (envelope : Envelope) :
    allowed (enterRamp stage target seconds onward envelope).stage := by
  unfold enterRamp
  dsimp only
  split
  · exact beyond _
  · exact entered

/-- Sustaining holds a level, or there is none to hold. -/
theorem stage_enterSustain (envelope : Envelope) :
    envelope.enterSustain.stage.isSettled ∨
      envelope.enterSustain.stage = .idle := by
  unfold enterSustain
  split
  · exact .inr rfl
  · exact .inl rfl

theorem stage_enterDecay (envelope : Envelope) :
    envelope.enterDecay.stage.isSettled ∨
      envelope.enterDecay.stage = .idle :=
  stage_enterRamp (fun stage => stage.isSettled ∨ stage = .idle)
    (.inl rfl) stage_enterSustain _ _ envelope

theorem stage_enterHold (envelope : Envelope) :
    envelope.enterHold.stage.isSettled ∨
      envelope.enterHold.stage = .idle :=
  stage_enterRamp (fun stage => stage.isSettled ∨ stage = .idle)
    (.inl rfl) stage_enterDecay _ _ envelope

/-- A stage at or after the peak of a held key is no release. -/
theorem ne_release_of_settled
    {stage : EnvelopeStage}
    (settled : stage.isSettled ∨ stage = .idle) :
    stage ≠ .release := by
  rintro rfl
  simp [isSettled] at settled

theorem stage_enterAttack (envelope : Envelope) :
    envelope.enterAttack.stage ≠ .release :=
  stage_enterRamp (· ≠ .release) (by decide)
    (fun passed => ne_release_of_settled (stage_enterHold passed)) _ _ envelope

theorem stage_enterDelay (envelope : Envelope) :
    envelope.enterDelay.stage ≠ .release :=
  stage_enterRamp (· ≠ .release) (by decide) stage_enterAttack
    _ _ envelope

/-- A pressed key never starts with the release. -/
theorem stage_noteOn
    (parameters : EnvelopeParameters)
    (envelope : Envelope) :
    (envelope.noteOn parameters).stage ≠ .release :=
  stage_enterDelay _

/-! ## One more sample -/

/-- What holds of all stages to come holds after a sample. -/
theorem stage_next
    (allowed : EnvelopeStage → Prop)
    (onward :
      ∀ ended : Envelope, allowed ended.stage → allowed ended.enterNext.stage)
    {envelope : Envelope}
    (before : allowed envelope.stage) :
    allowed envelope.next.stage := by
  have ramp : allowed envelope.stepRamp.stage := by
    unfold stepRamp
    dsimp only
    split
    · exact onward _ before
    · exact before
  unfold next
  split
  · exact before
  · exact before
  · exact ramp

/-- While a key is held, its envelope does not come to the release. -/
theorem stage_next_ne_release
    {envelope : Envelope}
    (held : envelope.stage ≠ .release) :
    envelope.next.stage ≠ .release := by
  refine stage_next (· ≠ .release) ?_ held
  intro ended held
  unfold enterNext
  split
  · exact stage_enterAttack ended
  · exact ne_release_of_settled (stage_enterHold ended)
  · exact ne_release_of_settled (stage_enterDecay ended)
  · exact ne_release_of_settled (stage_enterSustain ended)
  · exact ne_release_of_settled (stage_enterSustain ended)
  · simp
  · simp

/-- Past its peak, a held envelope stays there until it is silent. -/
theorem stage_next_settled
    {envelope : Envelope}
    (settled : envelope.stage.isSettled ∨ envelope.stage = .idle) :
    envelope.next.stage.isSettled ∨ envelope.next.stage = .idle := by
  refine stage_next
    (fun stage => stage.isSettled ∨ stage = .idle) ?_ settled
  intro ended settled
  unfold enterNext
  split
  · rename_i delayed
    simp [delayed, isSettled] at settled
  · rename_i attacking
    simp [attacking, isSettled] at settled
  · exact stage_enterDecay ended
  · exact stage_enterSustain ended
  · exact stage_enterSustain ended
  · exact .inr rfl
  · exact .inr rfl

/-- Once released, an envelope fades until it is silent. -/
theorem stage_next_fading
    {envelope : Envelope}
    (fading : envelope.stage.isFading) :
    envelope.next.stage.isFading := by
  refine stage_next (fun stage => stage.isFading) ?_ fading
  intro ended fading
  unfold enterNext
  split <;> rename_i stageShape
  all_goals first
    | rfl
    | simp [stageShape, isFading] at fading

/-- What one sample keeps, any number of samples keeps. -/
theorem stage_levels
    (allowed : EnvelopeStage → Prop)
    (keeps :
      ∀ {envelope : Envelope},
        allowed envelope.stage →
        allowed envelope.next.stage)
    (count : Nat)
    {envelope : Envelope}
    (before : allowed envelope.stage) :
    allowed (envelope.levels count).2.stage := by
  induction count generalizing envelope with
  | zero =>
      exact before
  | succ count inductionHypothesis =>
      exact inductionHypothesis (keeps before)

/-! ## Release -/

theorem stage_startRelease
    (seconds : Float32)
    (envelope : Envelope) :
    (envelope.startRelease seconds).stage.isFading := by
  unfold startRelease
  dsimp only
  split
  · rfl
  · rfl

/-- A released key leaves its envelope fading. -/
theorem stage_noteOff (envelope : Envelope) :
    envelope.noteOff.stage.isFading := by
  unfold noteOff
  split
  · rename_i resting
    rw [resting]
    rfl
  · rename_i releasing
    rw [releasing]
    rfl
  · exact stage_startRelease _ envelope

/-- So does a release that is forced. -/
theorem stage_forceRelease
    (seconds : Float32)
    (envelope : Envelope) :
    (envelope.forceRelease seconds).stage.isFading := by
  unfold forceRelease
  split
  · rename_i resting
    rw [resting]
    rfl
  · rename_i releasing
    split
    · exact stage_startRelease seconds envelope
    · rw [releasing]
      rfl
  · exact stage_startRelease _ envelope

end Envelope

end Polyphony.Sound
