import Polyphony.Number.Extremum
import Polyphony.Number.Rounding

namespace Polyphony.Sound

/-!
# Volume envelopes

A note is shaped by a level that waits, rises to full, is held there, falls to
a sustained level, stays, and fades to silence once the key is released.  Every
stage but the resting ones is a straight ramp over a whole number of samples.

A ramp counts its samples down and lands exactly on its target, so rounding
never leaves a note hovering above silence.  A stage of no samples is passed
at once, its target taken as the level.
-/

open Number (clamp larger smaller roundHalfAway)

/-- The level at and below which a sound counts as silent. -/
def silence : Float32 := 1.0e-4

/-- The shortest time, in seconds, that a stage can last. -/
def shortestTime : Float32 := 1.0 / 48000.0

/-- The times of an envelope in seconds, and the level at which it sustains. -/
structure EnvelopeParameters where
  delay : Float32
  attack : Float32
  hold : Float32
  decay : Float32
  sustain : Float32
  release : Float32
  deriving DecidableEq

namespace EnvelopeParameters

/-- Near-instant segments at full level, for a sound that states no envelope. -/
def standard : EnvelopeParameters where
  delay := 0
  attack := 0.001
  hold := 0
  decay := 0.001
  sustain := 1
  release := 0.001

/-- The classic four-part envelope, without delay or hold. -/
def adsr
    (attack decay sustain release : Float32) :
    EnvelopeParameters where
  delay := 0
  attack := attack
  hold := 0
  decay := decay
  sustain := sustain
  release := release

/-- A usable time: one that is finite and not negative. -/
def usableTime (seconds : Float32) : Float32 :=
  if seconds.isFinite then larger seconds 0 else 0

/-- A usable level: one from zero to one, full where none is given. -/
def usableLevel (level : Float32) : Float32 :=
  if level.isFinite then clamp 0 1 level else 1

/-- The nearest parameters that an envelope can follow. -/
def sanitized
    (parameters : EnvelopeParameters) :
    EnvelopeParameters where
  delay := usableTime parameters.delay
  attack := usableTime parameters.attack
  hold := usableTime parameters.hold
  decay := usableTime parameters.decay
  sustain := usableLevel parameters.sustain
  release := usableTime parameters.release

end EnvelopeParameters

/-- The segments of an envelope, and its rest. -/
inductive EnvelopeStage where
  | idle
  | delay
  | attack
  | hold
  | decay
  | sustain
  | release
  deriving Repr, DecidableEq

namespace EnvelopeStage

/-- The name of a stage. -/
def name : EnvelopeStage → String
  | .idle => "Idle"
  | .delay => "Delay"
  | .attack => "Attack"
  | .hold => "Hold"
  | .decay => "Decay"
  | .sustain => "Sustain"
  | .release => "Release"

end EnvelopeStage

/--
A running envelope.  While a ramp is under way, `remaining` samples of `step`
each lead from the present level to `target`.
-/
structure Envelope where
  parameters : EnvelopeParameters
  sampleRate : Float32
  stage : EnvelopeStage
  level : Float32
  target : Float32
  step : Float32
  remaining : Nat
  deriving DecidableEq

namespace Envelope

/-- An envelope at rest, for output at the given rate. -/
def new (sampleRate : Float32) : Envelope where
  parameters := .standard
  sampleRate := sampleRate
  stage := .idle
  level := 0
  target := 0
  step := 0
  remaining := 0

/-- Whether the envelope is anywhere but at rest. -/
def isActive (envelope : Envelope) : Bool :=
  envelope.stage ≠ .idle

/-- The number of samples that last for a time: at least one, or none at all. -/
def samplesFor
    (envelope : Envelope)
    (seconds : Float32) :
    Nat :=
  if seconds < shortestTime then
    0
  else
    (larger (roundHalfAway (seconds * envelope.sampleRate)) 1).toUInt32.toNat

/-- Silence at once. -/
def reset (envelope : Envelope) : Envelope :=
  { envelope with
    stage := .idle
    level := 0
    step := 0
    remaining := 0 }

/-- Head for a target from the present level. -/
def rampTo
    (target seconds : Float32)
    (envelope : Envelope) :
    Envelope :=
  let remaining := envelope.samplesFor seconds
  { envelope with
    target := target
    remaining := remaining
    step :=
      if remaining = 0 then
        0
      else
        (target - envelope.level) / Float32.ofNat remaining }

/--
Begin a ramped stage.  One of no samples is left again at once: its target
becomes the level, and the envelope moves `onward`.
-/
def enterRamp
    (stage : EnvelopeStage)
    (target seconds : Float32)
    (onward : Envelope → Envelope)
    (envelope : Envelope) :
    Envelope :=
  let ramping := rampTo target seconds { envelope with stage := stage }
  if ramping.remaining = 0 then
    onward { ramping with level := target }
  else
    ramping

/-- Begin to sustain, or fall silent if there is no level to hold. -/
def enterSustain (envelope : Envelope) : Envelope :=
  if envelope.parameters.sustain ≤ silence then
    envelope.reset
  else
    { envelope with
      stage := .sustain
      level := envelope.parameters.sustain }

/-- Begin the fall from full level to the sustained one. -/
def enterDecay (envelope : Envelope) : Envelope :=
  enterRamp .decay envelope.parameters.sustain envelope.parameters.decay
    enterSustain envelope

/-- Begin to hold the full level. -/
def enterHold (envelope : Envelope) : Envelope :=
  enterRamp .hold 1 envelope.parameters.hold enterDecay envelope

/-- Begin the rise to full level. -/
def enterAttack (envelope : Envelope) : Envelope :=
  enterRamp .attack 1 envelope.parameters.attack enterHold envelope

/-- Begin the silent wait before the attack. -/
def enterDelay (envelope : Envelope) : Envelope :=
  enterRamp .delay 0 envelope.parameters.delay enterAttack envelope

/-- Move from the end of a ramp into the stage after it. -/
def enterNext (envelope : Envelope) : Envelope :=
  match envelope.stage with
  | .delay => envelope.enterAttack
  | .attack => envelope.enterHold
  | .hold => envelope.enterDecay
  | .decay => envelope.enterSustain
  | .sustain => envelope.enterSustain
  | .idle => envelope.reset
  | .release => envelope.reset

/-- Key pressed: start from silence with new parameters. -/
def noteOn
    (parameters : EnvelopeParameters)
    (envelope : Envelope) :
    Envelope :=
  enterDelay
    { envelope with
      parameters := parameters.sanitized
      level := 0 }

/-- Fade from the present level to silence within a time. -/
def startRelease
    (seconds : Float32)
    (envelope : Envelope) :
    Envelope :=
  let releasing := rampTo 0 seconds { envelope with stage := .release }
  if releasing.remaining = 0 then
    releasing.reset
  else
    releasing

/-- Key released: fade out over the release time, unless that is under way. -/
def noteOff (envelope : Envelope) : Envelope :=
  match envelope.stage with
  | .idle => envelope
  | .release => envelope
  | _ => envelope.startRelease envelope.parameters.release

/-- Fade out within `seconds`, also where a slower release is under way. -/
def forceRelease
    (seconds : Float32)
    (envelope : Envelope) :
    Envelope :=
  match envelope.stage with
  | .idle => envelope
  | .release =>
      if envelope.samplesFor seconds < envelope.remaining then
        envelope.startRelease seconds
      else
        envelope
  | _ => envelope.startRelease (smaller envelope.parameters.release seconds)

/-- One sample of a ramp; its last one lands on the target and moves on. -/
def stepRamp (envelope : Envelope) : Envelope :=
  let stepped :=
    { envelope with
      level := clamp 0 1 (envelope.level + envelope.step)
      remaining := envelope.remaining - 1 }
  if stepped.remaining = 0 then
    enterNext { stepped with level := stepped.target }
  else
    stepped

/-- The envelope after one more sample; its `level` is that sample's. -/
def next (envelope : Envelope) : Envelope :=
  match envelope.stage with
  | .idle => { envelope with level := 0 }
  | .sustain => { envelope with level := envelope.parameters.sustain }
  | _ => envelope.stepRamp

/-- The levels of the next samples, and the envelope after them. -/
def levels : Nat → Envelope → List Float32 × Envelope
  | 0, envelope => ([], envelope)
  | count + 1, envelope =>
      let moved := envelope.next
      let (rest, last) := levels count moved
      (moved.level :: rest, last)

end Envelope

end Polyphony.Sound
