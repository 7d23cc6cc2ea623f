import Polyphony.Number.Extremum
import Polyphony.Number.Rounding
import Polyphony.Number.Transcendental

namespace Polyphony.Sound

/-!
# Mixing

Sounds are placed between two speakers, scaled and added; the sum is clipped
once, where it becomes 16-bit output.
-/

open Number (Transcendental clamp roundHalfAway truncate)

/-- One value for the left speaker and one for the right. -/
structure Stereo (Sample : Type) where
  left : Sample
  right : Sample
  deriving Repr, DecidableEq

namespace Stereo

/-- Apply a function on both sides. -/
def map
    (convert : First → Second)
    (frame : Stereo First) :
    Stereo Second :=
  ⟨convert frame.left, convert frame.right⟩

end Stereo

/-- A quarter of pi. -/
def quarterPi : Float32 := 0.78539816339744830961566

/--
The gains of a position from -1, hard left, to 1, hard right.  They lie on a
quarter circle, so their power is the same at every position.
-/
def panGains
    [Transcendental]
    (pan : Float32) :
    Stereo Float32 :=
  let angle := (clamp (-1) 1 pan + 1) * quarterPi
  ⟨Transcendental.cosine angle, Transcendental.sine angle⟩

/-- The factor of an attenuation in decibels. -/
def decibelGain
    [Transcendental]
    (attenuation : Float32) :
    Float32 :=
  Transcendental.power 10 (-attenuation / 20)

/-- The factor of a key velocity: a square law that is one at 127. -/
def velocityGain (velocity : Nat) : Float32 :=
  let part := Float32.ofNat (min velocity 127) / 127
  part * part

/-- Add a scaled signal to a bus. -/
def addScaled
    (bus signal : List Float32)
    (gain : Float32) :
    List Float32 :=
  List.zipWith (fun value sample => value + sample * gain) bus signal

/-- The sums of the sounds so far on both sides, one value a sample. -/
abbrev Bus : Type :=
  Stereo (List Float32)

namespace Bus

/-- A bus of `frames` silent values on both sides. -/
def silent (frames : Nat) : Bus :=
  ⟨List.replicate frames 0, List.replicate frames 0⟩

/-- Add a signal to both sides, each with its own gain. -/
def add
    (bus : Bus)
    (signal : List Float32)
    (gains : Stereo Float32) :
    Bus :=
  ⟨addScaled bus.left signal gains.left,
    addScaled bus.right signal gains.right⟩

/-- The frames of a bus, in order. -/
def frames (bus : Bus) : List (Stereo Float32) :=
  List.zipWith Stereo.mk bus.left bus.right

end Bus

/-- A bus value as a 16-bit sample, clipped at full scale. -/
def toSample (value : Float32) : Int16 :=
  Int16.ofInt <| truncate <|
    clamp (-32768) 32767 (roundHalfAway (value * 32767))

end Polyphony.Sound
