namespace Polyphony.Sound

/-!
# Interpolation

The value of a recording between two of its samples is estimated from the
samples around it.
-/

/-- The ways to estimate a value between samples. -/
inductive Interpolation where
  /-- The sample at or before the position. -/
  | none
  /-- The straight line through the samples on both sides. -/
  | linear
  /-- The cubic curve through two samples on each side. -/
  | cubic
  deriving Repr, DecidableEq

namespace Interpolation

/-- The word for a method in settings. -/
def word : Interpolation → String
  | .none => "none"
  | .linear => "linear"
  | .cubic => "cubic"

/-- The name of a method in descriptions. -/
def name : Interpolation → String
  | .none => "None"
  | .linear => "Linear"
  | .cubic => "Cubic"

/-- The method of a word, if it is one. -/
def ofWord? (text : String) : Option Interpolation :=
  [Interpolation.none, .linear, .cubic].find? fun method =>
    method.word = text

end Interpolation

/-- The straight line from `first` to `second` at a part of the way. -/
def lineThrough
    (first second part : Float32) :
    Float32 :=
  first + (second - first) * part

/-- The cubic through four samples, from the second to the third of them. -/
def cubicThrough
    (before first second after part : Float32) :
    Float32 :=
  let third := -0.5 * before + 1.5 * first - 1.5 * second + 0.5 * after
  let square := before - 2.5 * first + 2.0 * second - 0.5 * after
  let slope := -0.5 * before + 0.5 * second
  ((third * part + square) * part + slope) * part + first

end Polyphony.Sound
