namespace Polyphony.Number

/-!
# Transcendental functions

Sound needs a few functions that no finite arithmetic gives exactly.  They come
from the mathematical library of the machine, and nothing is assumed about
their last digits: all that uses them takes them as they are given.
-/

/-- The transcendental functions, in the precision in which they are used. -/
class Transcendental where
  sine : Float32 → Float32
  cosine : Float32 → Float32
  power : Float32 → Float32 → Float32
  /-- Two to a power. -/
  exponential : Float → Float

/-- The functions of the machine's mathematical library. -/
instance machineFunctions : Transcendental where
  sine := Float32.sin
  cosine := Float32.cos
  power := Float32.pow
  exponential := Float.exp2

end Polyphony.Number
