import Polyphony.Number.Decimal

namespace Polyphony.Text

/-!
# Numerals

How machine numbers are written: by their shortest decimal, in positional
notation as far as a style asks for it, and with an exponent beyond.
-/

open Float.Model (Format UnpackedFloat)
open Number (Decimal RoundingInterval)

/-- The choices that two ways of writing the same decimal differ in. -/
structure NumeralStyle where
  /-- How many zeros follow the point of a whole number. -/
  wholePlaces : Nat
  /-- Whether a decimal with its point at this position has no exponent. -/
  positional : Int → Bool

/-- Messages write every number in full, and whole numbers without a point. -/
def messageStyle : NumeralStyle where
  wholePlaces := 0
  positional := fun _ => true

/--
Structured descriptions keep one zero after the point, and use an exponent for
values from 10 ^ 16 on and for those below 10 ^ -4.
-/
def descriptionStyle : NumeralStyle where
  wholePlaces := 1
  positional := fun point => -3 ≤ point && point ≤ 16

/-- A text of `count` zeros. -/
def zeros (count : Nat) : String :=
  String.ofList (List.replicate count '0')

/-- A decimal in positional notation. -/
def writePositional
    (wholePlaces : Nat)
    (digits : List Char)
    (point : Int) :
    String :=
  if point ≤ 0 then
    "0." ++ zeros (-point).toNat ++ String.ofList digits
  else if digits.length ≤ point then
    String.ofList digits ++ zeros (point.toNat - digits.length) ++
      if wholePlaces = 0 then "" else "." ++ zeros wholePlaces
  else
    String.ofList (digits.take point.toNat) ++ "." ++
      String.ofList (digits.drop point.toNat)

/-- A decimal with one digit before the point and an exponent. -/
def writeExponential
    (digits : List Char)
    (point : Int) :
    String :=
  let places := digits.drop 1
  String.ofList (digits.take 1) ++
    (if places.isEmpty then "" else "." ++ String.ofList places) ++
    "e" ++ toString (point - 1)

/-- A decimal in the notation that the style chooses for its magnitude. -/
def writeDecimal
    (style : NumeralStyle)
    (decimal : Decimal) :
    String :=
  let digits := Nat.toDigits 10 decimal.digits
  let point := digits.length + decimal.exponent
  if style.positional point then
    writePositional style.wholePlaces digits point
  else
    writeExponential digits point

/-- The sign that is written before a magnitude. -/
def signText : UnpackedFloat.Sign → String
  | .negative => "-"
  | .positive => ""

/-- An unpacked number of the given format in the given style. -/
def writeUnpacked
    (style : NumeralStyle)
    (format : Format) :
    UnpackedFloat → String
  | .notANumber => "NaN"
  | .infinity sign => signText sign ++ "inf"
  | .zero sign => signText sign ++ writeDecimal style ⟨0, 0⟩
  | .finite sign mantissa exponent _ =>
      signText sign ++
        writeDecimal style
          (RoundingInterval.ofBinary format mantissa exponent).shortest

/-- A double precision number in the style of messages. -/
def writeNumber (value : Float) : String :=
  writeUnpacked messageStyle .binary64 value.toModel.unpack

/-- A single precision number in the style of structured descriptions. -/
def describeNumber (value : Float32) : String :=
  writeUnpacked descriptionStyle .binary32 value.toModel.unpack

/-- One hexadecimal digit, in lower case. -/
def hexDigit (value : Nat) : Char :=
  Nat.digitChar (value % 16)

/-- The last `width` hexadecimal digits of a natural number. -/
def writeHex
    (width value : Nat) :
    String :=
  String.ofList <|
    (List.range width).map fun place =>
      hexDigit (value >>> (4 * (width - 1 - place)))

/-- The eight hexadecimal digits of a single precision number's bits. -/
def writeBits (value : Float32) : String :=
  writeHex 8 value.toBits.toNat

end Polyphony.Text
