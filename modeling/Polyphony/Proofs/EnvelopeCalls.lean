import Polyphony.Proofs.EnvelopeTimeline

namespace Polyphony.Sound

/-!
# The calls of an envelope

An envelope can also be run with care: a count of no samples is not counted down,
the search for a stage to enter is given up after one pass over the stages, and a
level that is not from silence to full is refused.  Whatever an envelope is told,
nothing is ever refused, and a careful run ends where a run does.
-/

open Number

namespace EnvelopeStage

/-! ## Entering stages in a loop -/

/-- The stage after one that ends. -/
def following : EnvelopeStage → EnvelopeStage
  | .delay => .attack
  | .attack => .hold
  | .hold => .decay
  | .decay | .sustain => .sustain
  | .release | .idle => .idle

/-- How many stages a loop can come to from one on. -/
def ahead : EnvelopeStage → Nat
  | .delay => 5
  | .attack => 4
  | .hold => 3
  | .decay | .release => 2
  | .sustain | .idle => 1

/-- How many stages a held key has: a pass over them tries each once. -/
def onePass : Nat := 5

theorem ahead_pos (stage : EnvelopeStage) : 0 < stage.ahead := by
  cases stage <;> decide

theorem ahead_le_onePass (stage : EnvelopeStage) : stage.ahead ≤ onePass := by
  cases stage <;> decide

theorem ahead_following
    {stage : EnvelopeStage}
    (isRamp : stage.isRamp) :
    stage.ahead = stage.following.ahead + 1 := by
  revert isRamp
  cases stage <;> decide

end EnvelopeStage

namespace EnvelopeParameters

/-- The target of a stage and its time, if it is a ramp. -/
def ramp?
    (parameters : EnvelopeParameters) :
    EnvelopeStage → Option (Float32 × Float32)
  | .delay => some (0, parameters.delay)
  | .attack => some (1, parameters.attack)
  | .hold => some (1, parameters.hold)
  | .decay => some (parameters.sustain, parameters.decay)
  | .release => some (0, parameters.release)
  | .idle | .sustain => none

section Ramps

variable
  {parameters : EnvelopeParameters}
  {stage : EnvelopeStage}
  {target seconds : Float32}

theorem isRamp_of_ramp?
    (ramp : parameters.ramp? stage = some (target, seconds)) :
    stage.isRamp := by
  cases stage <;> first | rfl | cases ramp

theorem inUnit_of_ramp?
    (usable : InUnit parameters.sustain)
    (ramp : parameters.ramp? stage = some (target, seconds)) :
    InUnit target := by
  cases stage <;> cases ramp <;>
    first | exact inUnit_zero | exact inUnit_one | exact usable

end Ramps

end EnvelopeParameters

/-- What an envelope can be told. -/
inductive EnvelopeCall where
  | noteOn (parameters : EnvelopeParameters)
  | noteOff
  | forceRelease (seconds : Float32)
  | reset
  | next
  deriving DecidableEq

/-- The parameters that are followed after a call. -/
def EnvelopeCall.inForce
    (parameters : EnvelopeParameters) :
    EnvelopeCall → EnvelopeParameters
  | .noteOn pressed => pressed.sanitized
  | .noteOff | .forceRelease _ | .reset | .next => parameters

namespace Envelope

open EnvelopeStage (onePass)

/-- Enter a stage, or the first one after it that has any samples. -/
def enter : EnvelopeStage → Envelope → Envelope
  | .delay => enterDelay
  | .attack => enterAttack
  | .hold => enterHold
  | .decay => enterDecay
  | .sustain => enterSustain
  | .release => fun envelope => envelope.startRelease envelope.parameters.release
  | .idle => reset

/--
Try one stage after the other until one can be entered; after so many turns it
is given up.
-/
def enterWithin : Nat → EnvelopeStage → Envelope → Option Envelope
  | 0, _, _ => none
  | turns + 1, stage, envelope =>
      match envelope.parameters.ramp? stage with
      | some (target, seconds) =>
          let ramping := rampTo target seconds { envelope with stage := stage }
          if ramping.remaining = 0 then
            enterWithin turns stage.following { ramping with level := target }
          else
            some ramping
      | none =>
          if stage = .sustain then
            some envelope.enterSustain
          else
            some envelope.reset

theorem enterNext_eq_enter (envelope : Envelope) :
    envelope.enterNext = envelope.enter envelope.stage.following := by
  unfold enterNext
  cases envelope.stage <;> rfl

/-- A ramp is entered, or passed for what follows it. -/
theorem enter_of_ramp?
    {stage : EnvelopeStage}
    {target seconds : Float32}
    {envelope : Envelope}
    (ramp : envelope.parameters.ramp? stage = some (target, seconds)) :
    envelope.enter stage =
      enterRamp stage target seconds (enter stage.following) envelope := by
  cases stage <;> cases ramp <;> rfl

/-- The stages ahead are turns enough. -/
theorem enterWithin_of_ahead_le
    {turns : Nat}
    {stage : EnvelopeStage}
    (enough : stage.ahead ≤ turns)
    (envelope : Envelope) :
    enterWithin turns stage envelope = some (envelope.enter stage) := by
  induction turns generalizing stage envelope with
  | zero =>
      have some := stage.ahead_pos
      omega
  | succ turns inductionHypothesis =>
      cases ramp : envelope.parameters.ramp? stage with
      | none =>
          cases stage <;> first | rfl | cases ramp
      | some way =>
          obtain ⟨target, seconds⟩ := way
          have isRamp := EnvelopeParameters.isRamp_of_ramp? ramp
          have fewer := EnvelopeStage.ahead_following isRamp
          have further : stage.following.ahead ≤ turns := by omega
          simp only [enterWithin, ramp, enter_of_ramp? ramp, enterRamp,
            inductionHypothesis further, apply_ite Option.some]

/-- A stage is found in one pass, wherever the search begins. -/
theorem enterWithin_onePass
    (stage : EnvelopeStage)
    (envelope : Envelope) :
    enterWithin onePass stage envelope = some (envelope.enter stage) :=
  enterWithin_of_ahead_le stage.ahead_le_onePass envelope

/-! ## What every call leaves -/

/-- All numbers are in range, and the note has the parameters. -/
structure Ready
    (parameters : EnvelopeParameters)
    (envelope : Envelope) : Prop where
  inRange : envelope.InRange
  same : envelope.parameters = parameters

/--
Ramps have samples to come, rest is silent, and the level that is sustained is
that of the parameters and can be heard.
-/
structure Settled
    (parameters : EnvelopeParameters)
    (envelope : Envelope) : Prop extends Ready parameters envelope where
  counts : envelope.stage.isRamp → 1 ≤ envelope.remaining
  silent : envelope.stage = .idle → envelope.level = 0
  sustains :
    envelope.stage = .sustain →
    envelope.level = parameters.sustain ∧ silence < envelope.level

section Calls

variable {parameters : EnvelopeParameters} {envelope : Envelope}

theorem Ready.reset (ready : envelope.Ready parameters) :
    envelope.reset.Settled parameters where
  inRange := ready.inRange.reset
  same := ready.same
  counts := nofun
  silent := fun _ => rfl
  sustains := nofun

theorem Ready.enterSustain (ready : envelope.Ready parameters) :
    envelope.enterSustain.Settled parameters := by
  have inRange := ready.inRange.enterSustain
  unfold Envelope.enterSustain at inRange ⊢
  split
  · exact ready.reset
  · rename_i audible
    rw [if_neg audible] at inRange
    exact {
      inRange := inRange
      same := ready.same
      counts := nofun
      silent := nofun
      sustains := fun _ =>
        ⟨congrArg EnvelopeParameters.sustain ready.same,
          (silence_lt_iff ready.inRange.sustain).mpr audible⟩ }

/-- A ramp is as it should be if it has samples to come. -/
theorem Ready.settled_of_isRamp
    (ready : envelope.Ready parameters)
    (isRamp : envelope.stage.isRamp)
    (counts : 1 ≤ envelope.remaining) :
    envelope.Settled parameters where
  toReady := ready
  counts := fun _ => counts
  silent := fun idle => by
    rw [idle] at isRamp
    cases isRamp
  sustains := fun sustaining => by
    rw [sustaining] at isRamp
    cases isRamp

/-- A ramp that is begun has samples to come, or it is passed. -/
theorem Ready.enterRamp
    {stage : EnvelopeStage}
    {target seconds : Float32}
    {onward : Envelope → Envelope}
    (ready : envelope.Ready parameters)
    (inUnit : InUnit target)
    (isRamp : stage.isRamp)
    (settles :
      ∀ {passed : Envelope},
        passed.Ready parameters →
        (onward passed).Settled parameters) :
    (Envelope.enterRamp stage target seconds onward envelope).Settled
      parameters := by
  have ramping := (ready.inRange.withStage stage).rampTo inUnit seconds
  unfold Envelope.enterRamp
  dsimp only
  split
  · exact settles ⟨ramping.withLevel inUnit, ready.same⟩
  · rename_i some
    exact
      Ready.settled_of_isRamp ⟨ramping, ready.same⟩ isRamp
        (Nat.one_le_iff_ne_zero.mpr some)

/-- Whatever stage is entered, the envelope is left as it should be. -/
theorem Ready.enter
    (stage : EnvelopeStage)
    (ready : envelope.Ready parameters) :
    (envelope.enter stage).Settled parameters := by
  -- The induction is on the turns of the loop that enters the stage.
  generalize isAhead : stage.ahead = ahead
  induction ahead generalizing stage envelope with
  | zero => exact absurd isAhead stage.ahead_pos.ne'
  | succ ahead inductionHypothesis =>
      cases ramp : envelope.parameters.ramp? stage with
      | none =>
          cases stage with
          | idle => exact ready.reset
          | sustain => exact ready.enterSustain
          | _ => cases ramp
      | some way =>
          obtain ⟨target, seconds⟩ := way
          have isRamp := EnvelopeParameters.isRamp_of_ramp? ramp
          have fewer := EnvelopeStage.ahead_following isRamp
          have inUnit :=
            EnvelopeParameters.inUnit_of_ramp? ready.inRange.sustain ramp
          rw [enter_of_ramp? ramp]
          exact ready.enterRamp inUnit isRamp fun passed =>
            inductionHypothesis _ passed (by omega)

theorem Ready.startRelease
    (seconds : Float32)
    (ready : envelope.Ready parameters) :
    (envelope.startRelease seconds).Settled parameters := by
  rw [startRelease_eq_enterRamp]
  exact ready.enterRamp inUnit_zero rfl Ready.reset

theorem Ready.noteOn
    (pressed : EnvelopeParameters)
    (ready : envelope.Ready parameters) :
    (envelope.noteOn pressed).Settled pressed.sanitized := by
  refine Ready.enter .delay ⟨?_, rfl⟩
  exact ⟨inUnit_zero, ready.inRange.target,
    EnvelopeParameters.usableLevel_inUnit pressed.sustain, ready.inRange.step⟩

theorem Settled.noteOff (settled : envelope.Settled parameters) :
    envelope.noteOff.Settled parameters := by
  unfold Envelope.noteOff
  split
  · exact settled
  · exact settled
  · exact settled.startRelease _

theorem Settled.forceRelease
    (seconds : Float32)
    (settled : envelope.Settled parameters) :
    (envelope.forceRelease seconds).Settled parameters := by
  unfold Envelope.forceRelease
  split
  · exact settled
  · split
    · exact settled.startRelease seconds
    · exact settled
  · exact settled.startRelease _

/-- A sample at rest changes nothing. -/
theorem Settled.next_of_rest
    (settled : envelope.Settled parameters)
    (resting : ¬ envelope.stage.isRamp) :
    envelope.next = envelope := by
  unfold Envelope.next
  split
  · rename_i idle
    rw [← settled.silent idle]
  · rename_i sustaining
    have level : envelope.level = envelope.parameters.sustain := by
      rw [settled.same]
      exact (settled.sustains sustaining).1
    rw [← level]
  · cases stage : envelope.stage <;>
      simp_all [EnvelopeStage.isRamp]

/-- The last sample of a ramp enters a stage, and any other leaves some to come. -/
theorem Settled.next (settled : envelope.Settled parameters) :
    envelope.next.Settled parameters := by
  have inRange := settled.inRange.next
  by_cases isRamp : envelope.stage.isRamp
  · rcases (settled.counts isRamp).eq_or_lt with last | many
    · rw [next_of_last envelope isRamp last.symm, enterNext_eq_enter]
      refine Ready.enter _ ⟨?_, settled.same⟩
      exact ⟨settled.inRange.target, settled.inRange.target,
        settled.inRange.sustain, settled.inRange.step⟩
    · rw [next_of_many envelope isRamp many] at inRange ⊢
      exact
        Ready.settled_of_isRamp ⟨inRange, settled.same⟩ isRamp
          (Nat.le_sub_one_of_lt many)
  · rw [settled.next_of_rest isRamp]
    exact settled

end Calls

/-! ## Careful calls -/

/-- A sample of a ramp, if there is one to count down and a stage is found. -/
def stepRamp? (envelope : Envelope) : Option Envelope :=
  if envelope.remaining = 0 then
    none
  else
    let stepped :=
      { envelope with
        level := clamp 0 1 (envelope.level + envelope.step)
        remaining := envelope.remaining - 1 }
    if stepped.remaining = 0 then
      enterWithin onePass stepped.stage.following
        { stepped with level := stepped.target }
    else
      some stepped

/-- One more sample, unless its level is not from silence to full. -/
def next? (envelope : Envelope) : Option Envelope := do
  let moved ←
    match envelope.stage with
    | .idle => some { envelope with level := 0 }
    | .sustain => some { envelope with level := envelope.parameters.sustain }
    | _ => envelope.stepRamp?
  if 0 ≤ moved.level ∧ moved.level ≤ 1 then some moved else none

/-- The envelope after a call. -/
def act
    (envelope : Envelope) :
    EnvelopeCall → Envelope
  | .noteOn parameters => envelope.noteOn parameters
  | .noteOff => envelope.noteOff
  | .forceRelease seconds => envelope.forceRelease seconds
  | .reset => envelope.reset
  | .next => envelope.next

/-- The envelope after a careful call, unless it is refused. -/
def act?
    (envelope : Envelope) :
    EnvelopeCall → Option Envelope
  | .noteOn parameters =>
      enterWithin onePass .delay
        { envelope with
          parameters := parameters.sanitized
          level := 0 }
  | .noteOff => some envelope.noteOff
  | .forceRelease seconds => some (envelope.forceRelease seconds)
  | .reset => some envelope.reset
  | .next => envelope.next?

/-- A level between silence and full passes the comparisons with both. -/
theorem between_of_inUnit
    {level : Float32}
    (inUnit : InUnit level) :
    0 ≤ level ∧ level ≤ 1 := by
  obtain ⟨exact, isExact, nonneg, atMost⟩ := inUnit
  exact ⟨(is_zero.le_iff isExact).mpr nonneg, (isExact.le_iff is_one).mpr atMost⟩

/-- A count of some samples can be counted down, and a stage is found. -/
theorem stepRamp?_of_remaining
    {envelope : Envelope}
    (lasts : 1 ≤ envelope.remaining) :
    envelope.stepRamp? = some envelope.stepRamp := by
  have counts : envelope.remaining ≠ 0 := Nat.one_le_iff_ne_zero.mp lasts
  simp only [stepRamp?, stepRamp, if_neg counts, enterWithin_onePass,
    enterNext_eq_enter, apply_ite Option.some]

section CarefulCalls

variable {parameters : EnvelopeParameters} {envelope : Envelope}

theorem Settled.next?_eq (settled : envelope.Settled parameters) :
    envelope.next? = some envelope.next := by
  have isLevel := between_of_inUnit settled.next.inRange.level
  have careful :
      envelope.stage.isRamp → envelope.stepRamp? = some envelope.stepRamp :=
    fun isRamp => stepRamp?_of_remaining (settled.counts isRamp)
  unfold next?
  unfold Envelope.next at isLevel ⊢
  cases stage : envelope.stage <;>
    simp_all [EnvelopeStage.isRamp]

/-- Each call is a careful one, and leaves an envelope that is settled again. -/
theorem Settled.act
    (settled : envelope.Settled parameters)
    (call : EnvelopeCall) :
    envelope.act? call = some (envelope.act call) ∧
      (envelope.act call).Settled (call.inForce parameters) := by
  cases call with
  | noteOn pressed => exact ⟨enterWithin_onePass .delay _, settled.noteOn pressed⟩
  | noteOff => exact ⟨rfl, settled.noteOff⟩
  | forceRelease seconds => exact ⟨rfl, settled.forceRelease seconds⟩
  | reset => exact ⟨rfl, settled.reset⟩
  | next => exact ⟨settled.next?_eq, settled.next⟩

theorem Settled.calls
    (settled : envelope.Settled parameters)
    (calls : List EnvelopeCall) :
    calls.foldlM act? envelope = some (calls.foldl Envelope.act envelope) ∧
      (calls.foldl Envelope.act envelope).Settled
        (calls.foldl EnvelopeCall.inForce parameters) := by
  induction calls generalizing envelope parameters with
  | nil => exact ⟨rfl, settled⟩
  | cons call calls inductionHypothesis =>
      obtain ⟨careful, after⟩ := settled.act call
      rw [List.foldlM_cons, careful]
      exact inductionHypothesis after

end CarefulCalls

theorem settled_new (sampleRate : Float32) :
    (Envelope.new sampleRate).Settled .standard where
  inRange := .new sampleRate
  same := rfl
  counts := nofun
  silent := fun _ => rfl
  sustains := nofun

/--
Whatever an envelope is told, and at any rate, a careful run is never refused.
Every ramp has samples to come, what is idle is silent, and the level that is
sustained is the usable one of the last note and can be heard.  The level is
always a number from silence to full, and a stage to enter is found in one pass.
-/
theorem calls_are_never_refused
    (sampleRate : Float32)
    (calls : List EnvelopeCall) :
    let parameters := calls.foldl EnvelopeCall.inForce .standard
    let reached := calls.foldl act (Envelope.new sampleRate)
    calls.foldlM act? (Envelope.new sampleRate) = some reached ∧
      (reached.stage.isRamp → 1 ≤ reached.remaining) ∧
      (reached.stage = .idle → reached.level = 0) ∧
      (reached.stage = .sustain →
        reached.level = parameters.sustain ∧ silence < reached.level) ∧
      InUnit reached.level ∧
      ∀ stage, enterWithin onePass stage reached = some (reached.enter stage) := by
  intro parameters reached
  obtain ⟨careful, settled⟩ := (settled_new sampleRate).calls calls
  exact ⟨careful, settled.counts, settled.silent, settled.sustains,
    settled.inRange.level, fun stage => enterWithin_onePass stage reached⟩

/-- A note whose times and level are no numbers is at full level at once. -/
example :
    let unusable : EnvelopeParameters := ⟨0 / 0, 1 / 0, -1, 0 / 0, 0 / 0, -1 / 0⟩
    let reached := [.noteOn unusable, .next].foldl act (Envelope.new 48000)
    reached.stage = .sustain ∧ reached.level = 1 := by
  decide +kernel

end Envelope

end Polyphony.Sound
