import Polyphony.Number.Remainder
import Polyphony.Number.Rounding
import Polyphony.Sound.Interpolation

namespace Polyphony.Sound

/-!
# Playback cursors

A recording is played at another pitch by reading it at another speed: a cursor
holds a fractional position in the sample pool and moves by a step for every
output sample.  A looping cursor that reaches the end of its loop jumps back by
whole loop lengths, and looks up its neighbours beyond the loop's end from the
loop's start.  All other neighbours at or past the end of the recording read as
silence.

The kind of number that positions are is a parameter.
-/

open Number (narrow remainder)

/-- The arithmetic that a playback position needs. -/
class PositionArithmetic (Position : Type) where
  /-- The position of a sample. -/
  ofIndex : Nat → Position
  add : Position → Position → Position
  subtract : Position → Position → Position
  /-- The remainder of a truncated division. -/
  remainder : Position → Position → Position
  /-- Whether the first position is the second one or lies behind it. -/
  reaches : Position → Position → Bool
  /-- The last sample at or before a position. -/
  index : Position → Nat
  /-- The part of the way to the next sample, as a weight. -/
  weight : Position → Float32

/-- Playback keeps its positions in double precision. -/
instance : PositionArithmetic Float where
  ofIndex := Float.ofNat
  add := fun first second => first + second
  subtract := fun first second => first - second
  remainder := remainder
  reaches := fun first second => first ≥ second
  index := fun position => position.toUInt64.toNat
  weight := narrow

/--
A read position within the span of samples from `start` up to `stop`, and the
loop from `loopStart` up to `loopStop` that it follows while `looping`.
-/
structure Cursor (Position : Type) where
  position : Position
  start : Nat
  stop : Nat
  loopStart : Nat
  loopStop : Nat
  looping : Bool
  finished : Bool
  deriving DecidableEq

namespace Cursor

variable {Position : Type} [PositionArithmetic Position]

open PositionArithmetic

/-- Whether a loop has samples and stays within the span. -/
def fits
    (start stop : Nat)
    (loop : Nat × Nat) :
    Bool :=
  loop.1 < loop.2 && start ≤ loop.1 && loop.2 ≤ stop

/-- A cursor at the start of a span.  A loop that does not fit is ignored. -/
def new
    (start stop : Nat)
    (loop? : Option (Nat × Nat)) :
    Cursor Position :=
  let loop := (loop?.filter (fits start stop)).getD (start, stop)
  {
    position := ofIndex start
    start := start
    stop := stop
    loopStart := loop.1
    loopStop := loop.2
    looping := loop?.any (fits start stop)
    finished := stop ≤ start
  }

/-- A cursor that has nothing to play. -/
def idle : Cursor Position :=
  new 0 0 none

/-- Let the recording run past the loop to its end. -/
def stopLooping
    (cursor : Cursor Position) :
    Cursor Position :=
  { cursor with looping := false }

/-- The index that a read at `index` goes to: loops are read round and round. -/
def wrapIndex
    (cursor : Cursor Position)
    (index : Nat) :
    Nat :=
  if cursor.looping && cursor.loopStop ≤ index then
    cursor.loopStart +
      (index - cursor.loopStop) % (cursor.loopStop - cursor.loopStart)
  else
    index

/-- The sample at an index, on a scale from -1 to 1; silence past the end. -/
def fetch
    (cursor : Cursor Position)
    (pool : Array Int16)
    (index : Nat) :
    Float32 :=
  let wrapped := cursor.wrapIndex index
  if cursor.stop ≤ wrapped then
    0
  else
    match pool[wrapped]? with
    | some sample => Float32.ofInt sample.toInt / 32768
    | none => 0

/-- The estimated value at the position, on a scale from -1 to 1. -/
def read
    (pool : Array Int16)
    (method : Interpolation)
    (cursor : Cursor Position) :
    Float32 :=
  if cursor.finished then
    0
  else
    let index := index cursor.position
    let part := weight (subtract cursor.position (ofIndex index))
    let sample := cursor.fetch pool
    match method with
    | .none => sample index
    | .linear => lineThrough (sample index) (sample (index + 1)) part
    | .cubic =>
        cubicThrough (sample (max (index - 1) cursor.start)) (sample index)
          (sample (index + 1)) (sample (index + 2)) part

/-- Move on by a step.  A loop takes the position back by whole lengths. -/
def advance
    (step : Position)
    (cursor : Cursor Position) :
    Cursor Position :=
  if cursor.finished then
    cursor
  else
    let moved := add cursor.position step
    if cursor.looping then
      let loopStart := ofIndex cursor.loopStart
      let loopStop := ofIndex cursor.loopStop
      if reaches moved loopStop then
        let length := subtract loopStop loopStart
        let past := remainder (subtract moved loopStart) length
        { cursor with position := add loopStart past }
      else
        { cursor with position := moved }
    else
      { cursor with
        position := moved
        finished := reaches moved (ofIndex cursor.stop) }

end Cursor

end Polyphony.Sound
