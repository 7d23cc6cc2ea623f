namespace Polyphony.Number

/-!
# Extremes of machine numbers

The larger and the smaller of two single precision numbers, where a number
always wins over a value that is not one, and the restriction of a number to
an interval, which leaves a value that is not a number alone.
-/

/--
The larger of two values; of a number and a NaN, the number.  Of equal values
it is the second, which settles the sign of a zero.
-/
def larger
    (first second : Float32) :
    Float32 :=
  if second.isNaN then
    first
  else if first > second then
    first
  else
    second

/--
The smaller of two values; of a number and a NaN, the number.  Of equal values
it is the second, which settles the sign of a zero.
-/
def smaller
    (first second : Float32) :
    Float32 :=
  if second.isNaN then
    first
  else if first < second then
    first
  else
    second

/-- The nearest value of the interval from `low` to `high`; a NaN stays a NaN. -/
def clamp
    (low high value : Float32) :
    Float32 :=
  let raised := if value < low then low else value
  if raised > high then high else raised

end Polyphony.Number
