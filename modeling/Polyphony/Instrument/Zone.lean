import Polyphony.Sound.Envelope

namespace Polyphony.Instrument

/-!
# Zones

A zone says which part of a sample pool sounds for which keys and velocities,
and everything that a voice needs to play it.
-/

open Sound (EnvelopeParameters)

/-- The numbers from `low` to `high`, both included; none if they cross. -/
structure Span where
  low : Nat
  high : Nat
  deriving Repr, DecidableEq

namespace Span

/-- All keys, and all velocities. -/
def full : Span :=
  ⟨0, 127⟩

/-- Whether a number lies in the span. -/
def contains
    (span : Span)
    (number : Nat) :
    Bool :=
  span.low ≤ number && number ≤ span.high

end Span

/-- How a voice loops within a recording. -/
inductive LoopMode where
  /-- Play once, from start to end. -/
  | noLoop
  /-- Loop for as long as the voice sounds, its release included. -/
  | continuous
  /-- Loop while the key is held, then play on to the end. -/
  | untilRelease
  deriving Repr, DecidableEq

/-- Where a recording, and the loop within it, lie in a sample pool. -/
structure Recording where
  start : Nat
  stop : Nat
  loopStart : Nat
  loopStop : Nat
  sampleRate : Nat
  deriving Repr, DecidableEq

namespace Recording

/-- A recording that loops, if at all, over its whole length. -/
def spanning
    (start stop sampleRate : Nat) :
    Recording where
  start := start
  stop := stop
  loopStart := start
  loopStop := stop
  sampleRate := sampleRate

/-- Set the loop by its distances from the start of the recording. -/
def withLoop
    (first last : Nat)
    (recording : Recording) :
    Recording :=
  { recording with
    loopStart := recording.start + first
    loopStop := recording.start + last }

/-- The number of samples in the recording. -/
def length (recording : Recording) : Nat :=
  recording.stop - recording.start

/-- Whether the recording has no samples. -/
def isEmpty (recording : Recording) : Bool :=
  recording.length = 0

end Recording

/--
A region of keys and velocities and the sound it makes.  The tuning and the
pitch change from key to key are in cents, the attenuation in decibels.
-/
structure Zone where
  keys : Span
  velocities : Span
  recording : Recording
  loopMode : LoopMode
  rootKey : Nat
  tuning : Float32
  keyScaling : Float32
  attenuation : Float32
  pan : Float32
  envelope : EnvelopeParameters
  deriving DecidableEq

namespace Zone

/-- A zone on all keys that plays a recording as it is at middle C. -/
def playing (recording : Recording) : Zone where
  keys := .full
  velocities := .full
  recording := recording
  loopMode := .noLoop
  rootKey := 60
  tuning := 0
  keyScaling := 100
  attenuation := 0
  pan := 0
  envelope := .standard

/-- Whether a note of this key and velocity sounds the zone. -/
def covers
    (key velocity : Nat)
    (zone : Zone) :
    Bool :=
  zone.keys.contains key && zone.velocities.contains velocity

/-- The loop in the sample pool, if the zone loops at all. -/
def loop? (zone : Zone) : Option (Nat × Nat) :=
  match zone.loopMode with
  | .noLoop => none
  | .continuous => some (zone.recording.loopStart, zone.recording.loopStop)
  | .untilRelease => some (zone.recording.loopStart, zone.recording.loopStop)

end Zone

end Polyphony.Instrument
