namespace Polyphony.Number

/-!
# Exact remainder of double precision numbers

The remainder of a division that is truncated toward zero.  It is taken on the
integer mantissas at the smaller of the two exponents, so it is exact however
large the quotient is.
-/

open Float.Model (UnpackedFloat)

/-- The remainder of unpacked numbers: it has the sign of the dividend. -/
def unpackedRemainder :
    UnpackedFloat → UnpackedFloat → UnpackedFloat
  | .finite sign mantissa exponent positive, divisor =>
      match divisor with
      | .finite _ divisorMantissa divisorExponent _ =>
          let common := min exponent divisorExponent
          let scaled := mantissa <<< (exponent - common).toNat
          let scaledDivisor :=
            divisorMantissa <<< (divisorExponent - common).toNat
          let remaining := scaled % scaledDivisor
          if remaining = 0 then
            .zero sign
          else
            .round .binary64 sign remaining common
      | .infinity _ => .finite sign mantissa exponent positive
      | .zero _ => .notANumber
      | .notANumber => .notANumber
  | .zero sign, divisor =>
      match divisor with
      | .finite .. => .zero sign
      | .infinity _ => .zero sign
      | .zero _ => .notANumber
      | .notANumber => .notANumber
  | .infinity _, _ => .notANumber
  | .notANumber, _ => .notANumber

/--
The remainder of `value` by `divisor`, with the sign of `value`.  It is not a
number if `value` is infinite or `divisor` is zero.
-/
def remainder
    (value divisor : Float) :
    Float :=
  .ofModel <| .pack <|
    unpackedRemainder value.toModel.unpack divisor.toModel.unpack

end Polyphony.Number
