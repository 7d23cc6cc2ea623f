namespace Polyphony.Number

/-!
# Rounding and change of precision

Each function here works on the unpacked form of a number, that is on its
sign, its integer mantissa and its exponent, or on operations that have such a
form.  So each of them can be evaluated inside a proof.
-/

/-- Whether the sign bit of a value is set. -/
def isNegative
    (value : Float32) :
    Bool :=
  value.toBits >>> 31 == 1

/--
The nearest whole number, a half going away from zero.  From 2 ^ 23 on every
single precision number is whole, so larger values are returned unchanged.
-/
def roundHalfAway
    (value : Float32) :
    Float32 :=
  if value.abs < 8388608 then
    let whole := value.abs.toUInt32.toFloat32
    let rounded := if value.abs - whole < 0.5 then whole else whole + 1
    if isNegative value then -rounded else rounded
  else
    value

/-- The integer part of a finite value; a NaN has none and gives zero. -/
def truncate
    (value : Float32) :
    Int :=
  value.toModel.unpack.toInt 0 0

/-- The double precision number of the same value. -/
def widen
    (value : Float32) :
    Float :=
  .ofModel <| .pack <|
    match value.toModel.unpack with
    | .finite sign mantissa exponent _ =>
        .round .binary64 sign mantissa exponent
    | special => special

/-- The nearest single precision number, a tie going to the even mantissa. -/
def narrow
    (value : Float) :
    Float32 :=
  .ofModel <| .pack <|
    match value.toModel.unpack with
    | .finite sign mantissa exponent _ =>
        .round .binary32 sign mantissa exponent
    | special => special

end Polyphony.Number
