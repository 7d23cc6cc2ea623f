namespace Polyphony.Number

/-!
# Shortest decimals

A binary number is the nearest one to every real of a small interval around
it.  This module finds the decimal of the fewest digits in that interval; of
two with as few digits it takes the nearer one, and the upper one on a tie.
All steps are exact computations on natural numbers.
-/

open Float.Model (Format)

/-- The decimal number `digits * 10 ^ exponent`. -/
structure Decimal where
  digits : Nat
  exponent : Int
  deriving Repr, DecidableEq

/--
A positive value and the ends of the interval that rounds to it, as numerators
over one denominator.  The ends belong to the interval if it is `closed`.
-/
structure RoundingInterval where
  lowest : Nat
  value : Nat
  highest : Nat
  denominator : Nat
  closed : Bool
  deriving Repr, DecidableEq

namespace RoundingInterval

/--
The interval of `mantissa * 2 ^ exponent`.  Below a power of two the next
number of the format is half as far away, unless the exponent is the least.
-/
def ofBinary
    (format : Format)
    (mantissa : Nat)
    (exponent : Int) :
    RoundingInterval :=
  let gapHalves :=
    mantissa == Nat.pow 2 (format.mantissaBits - 1) &&
      exponent > format.minExponent
  let scale := Nat.pow 2 (exponent - 2).toNat
  {
    lowest := (4 * mantissa - if gapHalves then 1 else 2) * scale
    value := 4 * mantissa * scale
    highest := (4 * mantissa + 2) * scale
    denominator := Nat.pow 2 (2 - exponent).toNat
    closed := mantissa % 2 == 0
  }

/-- How many decimal digits a natural number is written with. -/
def digitCount (number : Nat) : Nat :=
  (Nat.toDigits 10 number).length

/-- The least `position` for which the value is below `10 ^ position`. -/
def pointPosition (interval : RoundingInterval) : Int :=
  if interval.denominator ≤ interval.value then
    digitCount (interval.value / interval.denominator)
  else
    1 - digitCount ((interval.denominator - 1) / interval.value)

/-- Whether the decimal `digits * 10 ^ exponent` lies in the interval. -/
def contains
    (interval : RoundingInterval)
    (decimal : Decimal) :
    Bool :=
  let unit := Nat.pow 10 decimal.exponent.toNat
  let parts := Nat.pow 10 (-decimal.exponent).toNat
  let number := decimal.digits * unit * interval.denominator
  let lowest := interval.lowest * parts
  let highest := interval.highest * parts
  if interval.closed then
    lowest ≤ number && number ≤ highest
  else
    lowest < number && number < highest

/--
The decimal of `count` digits in the interval that is nearest to the value, if
there is one: it is one of the two neighbours of the value on its grid.
-/
def nearest?
    (interval : RoundingInterval)
    (count : Nat) :
    Option Decimal :=
  let exponent := interval.pointPosition - count
  let unit := Nat.pow 10 exponent.toNat * interval.denominator
  let value := interval.value * Nat.pow 10 (-exponent).toNat
  let below : Decimal := ⟨value / unit, exponent⟩
  let above : Decimal :=
    if below.digits + 1 = Nat.pow 10 count then
      ⟨1, exponent + count⟩
    else
      ⟨below.digits + 1, exponent⟩
  match interval.contains below, interval.contains above with
  | true, true =>
      if 2 * value < (2 * below.digits + 1) * unit then
        some below
      else
        some above
  | true, false => some below
  | false, true => some above
  | false, false => none

/--
The shortest decimal of the interval.  Seventeen digits tell any two double
precision numbers apart, so the search never runs past them.
-/
def shortest (interval : RoundingInterval) : Decimal :=
  ((List.range' 1 17).findSome? interval.nearest?).getD
    ⟨interval.value / interval.denominator, 0⟩

end RoundingInterval

end Polyphony.Number
