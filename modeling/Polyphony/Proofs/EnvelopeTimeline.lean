import Polyphony.Proofs.EnvelopeLevels
import Polyphony.Proofs.EnvelopeStages

namespace Polyphony.Sound

/-!
# The timeline of an envelope

The times of a note, counted in samples, tell in which stage its envelope is
after any number of samples.  A stage of no samples is never seen, but its target
counts all the same: each stage is entered at the level at which the one before
it ends.  From the release of the key on only its own time counts.
-/

open Number

/-- Whether samples are counted down in a stage. -/
def EnvelopeStage.isRamp : EnvelopeStage → Bool
  | .idle | .sustain => false
  | .delay | .attack | .hold | .decay | .release => true

/-- The lengths of the stages in samples, and the level that is sustained. -/
structure Timeline where
  delay : Nat
  attack : Nat
  hold : Nat
  decay : Nat
  release : Nat
  sustain : Float32

namespace Timeline

/-- Where the envelope of a held key rests: at a level that can be heard, or silent. -/
def rest (timeline : Timeline) : EnvelopeStage :=
  if silence < timeline.sustain then .sustain else .idle

/-- The stage of a held key after some samples. -/
def stageAt
    (count : Nat)
    (timeline : Timeline) :
    EnvelopeStage :=
  if count < timeline.delay then
    .delay
  else if count < timeline.delay + timeline.attack then
    .attack
  else if count < timeline.delay + timeline.attack + timeline.hold then
    .hold
  else if count <
      timeline.delay + timeline.attack + timeline.hold + timeline.decay then
    .decay
  else
    timeline.rest

/--
The level at which a stage is entered: the target of the stage before it, and
for a release any level.
-/
inductive EntersAt (timeline : Timeline) : EnvelopeStage → Float32 → Prop where
  | delay : EntersAt timeline .delay 0
  | attack : EntersAt timeline .attack 0
  | hold : EntersAt timeline .hold 1
  | decay : EntersAt timeline .decay 1
  | sustain : EntersAt timeline .sustain timeline.sustain
  | release (level : Float32) : EntersAt timeline .release level
  | idle : EntersAt timeline .idle 0

theorem EntersAt.level_of_sustain
    {timeline : Timeline}
    {level : Float32}
    (enters : timeline.EntersAt .sustain level) :
    level = timeline.sustain := by
  cases enters
  rfl

theorem EntersAt.level_of_idle
    {timeline : Timeline}
    {level : Float32}
    (enters : timeline.EntersAt .idle level) :
    level = 0 := by
  cases enters
  rfl

/-- A course that begins with a stage of some samples. -/
def leadIn
    (stage : EnvelopeStage)
    (length : Nat)
    (onward : Nat → EnvelopeStage)
    (count : Nat) :
    EnvelopeStage :=
  if count < length then stage else onward (count - length)

@[simp] theorem leadIn_zero
    (stage : EnvelopeStage)
    (onward : Nat → EnvelopeStage) :
    leadIn stage 0 onward = onward := by
  funext count
  simp [leadIn]

theorem leadIn_of_lt
    {stage : EnvelopeStage}
    {onward : Nat → EnvelopeStage}
    {count length : Nat}
    (before : count < length) :
    leadIn stage length onward count = stage :=
  if_pos before

@[simp] theorem leadIn_add
    (stage : EnvelopeStage)
    (onward : Nat → EnvelopeStage)
    (length count : Nat) :
    leadIn stage length onward (length + count) = onward count := by
  simp [leadIn]

/-- The course of a held key whose decay begins. -/
def fromDecay (timeline : Timeline) : Nat → EnvelopeStage :=
  leadIn .decay timeline.decay fun _ => timeline.rest

/-- The course of a held key that reaches the full level. -/
def fromHold (timeline : Timeline) : Nat → EnvelopeStage :=
  leadIn .hold timeline.hold timeline.fromDecay

/-- The course of a held key whose attack begins. -/
def fromAttack (timeline : Timeline) : Nat → EnvelopeStage :=
  leadIn .attack timeline.attack timeline.fromHold

/-- The course of a key that is pressed. -/
def fromDelay (timeline : Timeline) : Nat → EnvelopeStage :=
  leadIn .delay timeline.delay timeline.fromAttack

/-- The course of a key that is released. -/
def fromRelease (timeline : Timeline) : Nat → EnvelopeStage :=
  leadIn .release timeline.release fun _ => .idle

/-- One stage after the other is the same as all times added up. -/
theorem fromDelay_eq
    (timeline : Timeline)
    (count : Nat) :
    timeline.fromDelay count = timeline.stageAt count := by
  simp only [fromDelay, fromAttack, fromHold, fromDecay, leadIn, stageAt]
  split_ifs <;> first | rfl | omega

end Timeline

namespace Envelope

/-- The timeline of a note with some parameters. -/
def timeline
    (parameters : EnvelopeParameters)
    (envelope : Envelope) :
    Timeline where
  delay := envelope.samplesFor parameters.delay
  attack := envelope.samplesFor parameters.attack
  hold := envelope.samplesFor parameters.hold
  decay := envelope.samplesFor parameters.decay
  release := envelope.samplesFor parameters.release
  sustain := parameters.sustain

/-- The timeline that an envelope follows at present. -/
def ownTimeline (envelope : Envelope) : Timeline :=
  envelope.timeline envelope.parameters

/-! ## Samples one after the other -/

/-- Some samples, and then some more. -/
theorem last_levels_add
    (first second : Nat)
    (envelope : Envelope) :
    (envelope.levels (first + second)).2 =
      ((envelope.levels first).2.levels second).2 := by
  induction first generalizing envelope with
  | zero => rw [Nat.zero_add]; rfl
  | succ first inductionHypothesis =>
      rw [Nat.add_right_comm]
      exact inductionHypothesis envelope.next

/-- An envelope that a sample does not change stays as it is. -/
theorem last_levels_of_fixed
    {envelope : Envelope}
    (fixed : envelope.next = envelope)
    (count : Nat) :
    (envelope.levels count).2 = envelope := by
  induction count with
  | zero => rfl
  | succ count inductionHypothesis =>
      rw [levels, fixed]
      exact inductionHypothesis

/-- A sample of a ramp moves the level, and the count by one. -/
theorem next_of_many
    (envelope : Envelope)
    (isRamp : envelope.stage.isRamp)
    (many : 1 < envelope.remaining) :
    envelope.next =
      { envelope with
        level := clamp 0 1 (envelope.level + envelope.step)
        remaining := envelope.remaining - 1 } := by
  have more : envelope.remaining - 1 ≠ 0 := by omega
  cases stage : envelope.stage <;>
    simp_all [next, stepRamp, EnvelopeStage.isRamp]

/-- The last sample of a ramp lands on its target, and moves on. -/
theorem next_of_last
    (envelope : Envelope)
    (isRamp : envelope.stage.isRamp)
    (last : envelope.remaining = 1) :
    envelope.next =
      enterNext
        { envelope with
          level := envelope.target
          remaining := 0 } := by
  cases stage : envelope.stage <;>
    simp_all [next, stepRamp, EnvelopeStage.isRamp]

/-- While a ramp lasts, samples change the level and the count alone. -/
theorem exists_last_levels_of_isRamp
    {envelope : Envelope}
    (isRamp : envelope.stage.isRamp)
    {count : Nat}
    (before : count < envelope.remaining) :
    ∃ level,
      (envelope.levels count).2 =
        { envelope with
          level := level
          remaining := envelope.remaining - count } := by
  induction count with
  | zero => exact ⟨envelope.level, rfl⟩
  | succ count inductionHypothesis =>
      obtain ⟨level, reached⟩ := inductionHypothesis (by omega)
      refine ⟨clamp 0 1 (level + envelope.step), ?_⟩
      rw [last_levels_add count 1, reached]
      have many : 1 < envelope.remaining - count := by omega
      exact
        next_of_many
          { envelope with
            level := level
            remaining := envelope.remaining - count }
          isRamp many

/-- A ramp ends at its target, and the next stage is entered there. -/
theorem last_levels_remaining
    {envelope : Envelope}
    (isRamp : envelope.stage.isRamp)
    (some : envelope.remaining ≠ 0) :
    (envelope.levels envelope.remaining).2 =
      enterNext
        { envelope with
          level := envelope.target
          remaining := 0 } := by
  obtain ⟨before, isBefore⟩ := Nat.exists_eq_add_one_of_ne_zero some
  have notLast : before < envelope.remaining := by omega
  obtain ⟨level, reached⟩ := exists_last_levels_of_isRamp isRamp notLast
  have last : envelope.remaining - before = 1 := by omega
  conv_lhs => rw [isBefore, last_levels_add before 1, reached]
  exact
    next_of_last
      { envelope with
        level := level
        remaining := envelope.remaining - before }
      isRamp last

/-! ## Courses -/

/--
After some samples the envelope is where a course of stages on a timeline leads.
It comes into each stage at the level that belongs to it, and where it rests it
stays at that level.
-/
structure Keeps
    (timeline : Timeline)
    (course : Nat → EnvelopeStage)
    (count : Nat)
    (envelope : Envelope) : Prop where
  same : envelope.ownTimeline = timeline
  stage : envelope.stage = course count
  enters :
    (∀ earlier < count, course earlier ≠ course count) →
    timeline.EntersAt (course count) envelope.level
  rests :
    ¬ (course count).isRamp →
    timeline.EntersAt (course count) envelope.level

/-- The envelope takes a course of stages, whatever the number of samples is. -/
def Takes
    (timeline : Timeline)
    (course : Nat → EnvelopeStage)
    (envelope : Envelope) : Prop :=
  ∀ count, (envelope.levels count).2.Keeps timeline course count

/-- At rest the course is the same for ever. -/
theorem takes_of_fixed
    {timeline : Timeline}
    {stage : EnvelopeStage}
    {envelope : Envelope}
    (fixed : envelope.next = envelope)
    (same : envelope.ownTimeline = timeline)
    (isStage : envelope.stage = stage)
    (entered : timeline.EntersAt stage envelope.level) :
    envelope.Takes timeline fun _ => stage := by
  intro count
  rw [last_levels_of_fixed fixed]
  exact ⟨same, isStage, fun _ => entered, fun _ => entered⟩

/-- A ramp lasts for its samples, and then the course of what follows is taken. -/
theorem takes_of_isRamp
    {timeline : Timeline}
    {course : Nat → EnvelopeStage}
    (envelope : Envelope)
    (same : envelope.ownTimeline = timeline)
    (isRamp : envelope.stage.isRamp)
    (some : envelope.remaining ≠ 0)
    (takes :
      (enterNext
          { envelope with
            level := envelope.target
            remaining := 0 }).Takes timeline course)
    (entered : timeline.EntersAt envelope.stage envelope.level) :
    envelope.Takes timeline
      (Timeline.leadIn envelope.stage envelope.remaining course) := by
  intro count
  rcases Nat.lt_or_ge count envelope.remaining with before | after
  · obtain ⟨level, reached⟩ := exists_last_levels_of_isRamp isRamp before
    refine ⟨?_, ?_, ?_, ?_⟩
    · rw [reached]
      exact same
    · rw [reached, Timeline.leadIn_of_lt before]
    · -- The ramp is entered with its first sample still to come.
      intro isFirst
      rw [Timeline.leadIn_of_lt before] at isFirst ⊢
      cases count with
      | zero => exact entered
      | succ count =>
          have atStart := isFirst 0 (Nat.succ_pos count)
          rw [Timeline.leadIn_of_lt (Nat.pos_of_ne_zero some)] at atStart
          exact absurd rfl atStart
    · intro resting
      rw [Timeline.leadIn_of_lt before] at resting
      exact absurd isRamp resting
  · obtain ⟨later, rfl⟩ := Nat.exists_eq_add_of_le after
    have follows := takes later
    rw [last_levels_add, last_levels_remaining isRamp some]
    refine ⟨follows.same, ?_, ?_, ?_⟩
    · rw [Timeline.leadIn_add]
      exact follows.stage
    · intro isFirst
      rw [Timeline.leadIn_add] at isFirst ⊢
      refine follows.enters fun earlier sooner => ?_
      have different :=
        isFirst (envelope.remaining + earlier) (Nat.add_lt_add_left sooner _)
      rwa [Timeline.leadIn_add] at different
    · rw [Timeline.leadIn_add]
      exact follows.rests

/-- A stage that is begun lasts for its time, and then what follows it. -/
theorem takes_enterRamp
    {timeline : Timeline}
    {stage : EnvelopeStage}
    {target seconds : Float32}
    {onward : Envelope → Envelope}
    {course : Nat → EnvelopeStage}
    {envelope : Envelope}
    (same : envelope.ownTimeline = timeline)
    (isRamp : stage.isRamp)
    (goesOn :
      ∀ ended : Envelope, ended.stage = stage → ended.enterNext = onward ended)
    (takes :
      ∀ passed : Envelope,
        passed.ownTimeline = timeline →
        passed.level = target →
        (onward passed).Takes timeline course)
    (entered : timeline.EntersAt stage envelope.level) :
    (enterRamp stage target seconds onward envelope).Takes timeline
      (Timeline.leadIn stage (envelope.samplesFor seconds) course) := by
  by_cases none : envelope.samplesFor seconds = 0
  · have passes :
        enterRamp stage target seconds onward envelope =
          onward
            { rampTo target seconds { envelope with stage := stage } with
              level := target } :=
      if_pos none
    rw [passes, none, Timeline.leadIn_zero]
    exact takes _ same rfl
  · have begins :
        enterRamp stage target seconds onward envelope =
          rampTo target seconds { envelope with stage := stage } :=
      if_neg none
    rw [begins]
    refine
      takes_of_isRamp
        (rampTo target seconds { envelope with stage := stage })
        same isRamp none ?_ entered
    rw [goesOn _ rfl]
    exact takes _ same rfl

/-! ## A held key -/

section Held

variable {timeline : Timeline} {envelope : Envelope}

/-- A usable level can be heard, or it is at most silence. -/
theorem silence_lt_iff
    {level : Float32}
    (usable : InUnit level) :
    silence < level ↔ ¬ level ≤ silence := by
  have finite : (FloatingPoint.unpack silence).isFinite = true := by
    decide +kernel
  obtain ⟨least, isLeast⟩ := exists_is finite
  obtain ⟨exact, isExact⟩ := usable.finite
  rw [isLeast.lt_iff isExact, isExact.le_iff isLeast, not_le]

theorem takes_reset (same : envelope.ownTimeline = timeline) :
    envelope.reset.Takes timeline fun _ => .idle :=
  takes_of_fixed rfl same rfl .idle

theorem takes_enterSustain
    (usable : InUnit timeline.sustain)
    (same : envelope.ownTimeline = timeline) :
    envelope.enterSustain.Takes timeline fun _ => timeline.rest := by
  subst same
  have audible : silence < envelope.parameters.sustain ↔ _ :=
    silence_lt_iff usable
  by_cases silent : envelope.parameters.sustain ≤ silence
  · have falls : envelope.enterSustain = envelope.reset := if_pos silent
    have rests : envelope.ownTimeline.rest = .idle :=
      if_neg fun heard => audible.mp heard silent
    rw [falls, rests]
    exact takes_reset rfl
  · have holds :
        envelope.enterSustain =
          { envelope with
            stage := .sustain
            level := envelope.parameters.sustain } :=
      if_neg silent
    have rests : envelope.ownTimeline.rest = .sustain :=
      if_pos (audible.mpr silent)
    rw [holds, rests]
    exact takes_of_fixed rfl rfl rfl .sustain

theorem takes_enterDecay
    (usable : InUnit timeline.sustain)
    (same : envelope.ownTimeline = timeline)
    (full : envelope.level = 1) :
    envelope.enterDecay.Takes timeline timeline.fromDecay := by
  subst same
  refine
    takes_enterRamp rfl rfl
      (fun ended isStage => by rw [enterNext, isStage])
      (fun passed same _ => takes_enterSustain usable same) ?_
  rw [full]
  exact .decay

theorem takes_enterHold
    (usable : InUnit timeline.sustain)
    (same : envelope.ownTimeline = timeline)
    (full : envelope.level = 1) :
    envelope.enterHold.Takes timeline timeline.fromHold := by
  subst same
  refine
    takes_enterRamp rfl rfl
      (fun ended isStage => by rw [enterNext, isStage])
      (fun passed => takes_enterDecay usable) ?_
  rw [full]
  exact .hold

theorem takes_enterAttack
    (usable : InUnit timeline.sustain)
    (same : envelope.ownTimeline = timeline)
    (silent : envelope.level = 0) :
    envelope.enterAttack.Takes timeline timeline.fromAttack := by
  subst same
  refine
    takes_enterRamp rfl rfl
      (fun ended isStage => by rw [enterNext, isStage])
      (fun passed => takes_enterHold usable) ?_
  rw [silent]
  exact .attack

theorem takes_enterDelay
    (usable : InUnit timeline.sustain)
    (same : envelope.ownTimeline = timeline)
    (silent : envelope.level = 0) :
    envelope.enterDelay.Takes timeline timeline.fromDelay := by
  subst same
  refine
    takes_enterRamp rfl rfl
      (fun ended isStage => by rw [enterNext, isStage])
      (fun passed => takes_enterAttack usable) ?_
  rw [silent]
  exact .delay

/-- A pressed key takes the course of its parameters as they can be used. -/
theorem takes_noteOn
    (parameters : EnvelopeParameters)
    (envelope : Envelope) :
    (envelope.noteOn parameters).Takes
      (envelope.timeline parameters.sanitized)
      (envelope.timeline parameters.sanitized).fromDelay :=
  takes_enterDelay
    (EnvelopeParameters.usableLevel_inUnit parameters.sustain) rfl rfl

end Held

/-! ## A released key -/

theorem noteOff_of_not_fading
    {envelope : Envelope}
    (sounding : ¬ envelope.stage.isFading) :
    envelope.noteOff =
      envelope.startRelease envelope.parameters.release := by
  cases isStage : envelope.stage <;>
    simp_all [noteOff, EnvelopeStage.isFading]

/-- A key that is released already cannot be released again. -/
theorem noteOff_of_fading
    {envelope : Envelope}
    (fading : envelope.stage.isFading) :
    envelope.noteOff = envelope := by
  cases isStage : envelope.stage <;>
    simp_all [noteOff, EnvelopeStage.isFading]

/-- A release that is begun is a ramp to silence, and then rest. -/
theorem startRelease_eq_enterRamp
    (seconds : Float32)
    (envelope : Envelope) :
    envelope.startRelease seconds =
      envelope.enterRamp .release 0 seconds reset :=
  rfl

theorem level_startRelease
    {seconds : Float32}
    {envelope : Envelope}
    (some : envelope.samplesFor seconds ≠ 0) :
    (envelope.startRelease seconds).level = envelope.level := by
  have begins :
      envelope.startRelease seconds =
        rampTo 0 seconds { envelope with stage := .release } :=
    if_neg some
  rw [begins]
  rfl

theorem takes_noteOff
    {timeline : Timeline}
    {envelope : Envelope}
    (same : envelope.ownTimeline = timeline)
    (sounding : ¬ envelope.stage.isFading) :
    envelope.noteOff.Takes timeline timeline.fromRelease := by
  subst same
  rw [noteOff_of_not_fading sounding, startRelease_eq_enterRamp]
  exact
    takes_enterRamp rfl rfl
      (fun ended isStage => by rw [enterNext, isStage])
      (fun passed same _ => takes_reset same)
      (.release envelope.level)

/-- A rest that is reached is at its own level. -/
theorem Takes.level_of_rest
    {timeline : Timeline}
    {course : Nat → EnvelopeStage}
    {envelope : Envelope}
    (takes : envelope.Takes timeline course)
    {count : Nat}
    {stage : EnvelopeStage}
    (isStage : (envelope.levels count).2.stage = stage)
    (resting : ¬ stage.isRamp) :
    timeline.EntersAt stage (envelope.levels count).2.level := by
  have sameStage : course count = stage :=
    (takes count).stage.symm.trans isStage
  subst sameStage
  exact (takes count).rests resting

/--
A released key fades for the time of its release, and then it is silent.  The
release begins at the present level if it has any samples, and it is not begun
again.
-/
theorem noteOff_keeps_to_release
    {timeline : Timeline}
    {envelope : Envelope}
    (same : envelope.ownTimeline = timeline)
    (sounding : ¬ envelope.stage.isFading) :
    (0 < timeline.release → envelope.noteOff.level = envelope.level) ∧
      ∀ later,
        let fading := (envelope.noteOff.levels later).2
        fading.stage = (if later < timeline.release then .release else .idle) ∧
          (timeline.release ≤ later → fading.level = 0) ∧
          fading.noteOff = fading := by
  have fades := takes_noteOff same sounding
  subst same
  refine ⟨?_, ?_⟩
  · intro lasts
    rw [noteOff_of_not_fading sounding]
    exact level_startRelease lasts.ne'
  · intro later fading
    have isStage : fading.stage = envelope.ownTimeline.fromRelease later :=
      (fades later).stage
    have isFading : fading.stage.isFading :=
      stage_levels (fun stage => stage.isFading) stage_next_fading later
        (stage_noteOff envelope)
    refine ⟨isStage, ?_, noteOff_of_fading isFading⟩
    intro passed
    have idle : fading.stage = .idle :=
      isStage.trans (if_neg (not_lt.mpr passed))
    exact (fades.level_of_rest idle Bool.false_ne_true).level_of_idle

/--
An envelope follows the timeline of its parameters as they can be used.  It is
in the stage that the samples since the key was pressed tell, and comes into each
stage at the target of the one before, even where that one has no samples.  The
sustained level stays, and what is idle is silent.

From the release of the key on, the time of the release alone counts.  The level
is where it was unless that time has no samples, and at its end it is silent for
good.  Releasing the key once more changes nothing.
-/
theorem noteOn_keeps_to_timeline
    (parameters : EnvelopeParameters)
    (envelope : Envelope)
    (count : Nat) :
    let timeline := envelope.timeline parameters.sanitized
    let reached := ((envelope.noteOn parameters).levels count).2
    reached.stage = timeline.stageAt count ∧
      ((∀ earlier < count, timeline.stageAt earlier ≠ timeline.stageAt count) →
        timeline.EntersAt reached.stage reached.level) ∧
      (reached.stage = .sustain → reached.level = timeline.sustain) ∧
      (reached.stage = .idle → reached.level = 0) ∧
      (reached.stage ≠ .idle →
        (0 < timeline.release → reached.noteOff.level = reached.level) ∧
        ∀ later,
          let fading := (reached.noteOff.levels later).2
          fading.stage = (if later < timeline.release then .release else .idle) ∧
            (timeline.release ≤ later → fading.level = 0) ∧
            fading.noteOff = fading) := by
  intro timeline reached
  have takes := takes_noteOn parameters envelope
  refine ⟨?_, ?_, ?_, ?_, ?_⟩
  · rw [← Timeline.fromDelay_eq]
    exact (takes count).stage
  · simp only [← Timeline.fromDelay_eq]
    intro isFirst
    rw [(takes count).stage]
    exact (takes count).enters isFirst
  · intro sustaining
    exact (takes.level_of_rest sustaining Bool.false_ne_true).level_of_sustain
  · intro idle
    exact (takes.level_of_rest idle Bool.false_ne_true).level_of_idle
  · intro active
    have held : reached.stage ≠ .release :=
      stage_levels (· ≠ .release) stage_next_ne_release count
        (stage_noteOn parameters envelope)
    have sounding : ¬ reached.stage.isFading := by
      revert held active
      cases reached.stage <;> decide
    exact noteOff_keeps_to_release (takes count).same sounding

end Envelope

end Polyphony.Sound
