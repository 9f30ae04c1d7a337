/-
This file shows payloads of scalar types.
-/

import ParamCodec.Bytes.Base64
import ParamCodec.Bytes.Utf8
import ParamCodec.Calendar.Timestamp
import ParamCodec.Decimal.Fixed
import ParamCodec.Decimal.Style
import ParamCodec.Json.Reader
import ParamCodec.Json.Writer
import ParamCodec.Typed.Value

namespace ParamCodec.Display

/-- The integers of 32 bits. -/
def isInt32 (value : Int) : Bool := -(Int.pow 2 31) ≤ value && value < Int.pow 2 31

/-- Floats are positional from `0.0001` to below a million. -/
def isModerate (exponent : Int) : Bool := -4 ≤ exponent && exponent < 6

/-- The positional one of the two texts of a number if the exponent in the other one is moderate. If it
is not, that one is taken, and its exponent gets a sign and at least two digits. -/
def chosenText (positional exponential : Text) : Text :=
  match Text.splitAtFirst? 'e' exponential with
  | none => positional
  | some (mantissa, written) =>
    match (Numeral.integer 10 written).toOption.filter isInt32 with
    | none => positional
    | some exponent =>
      if isModerate exponent then positional
      else
        mantissa ++ 'e' :: (if exponent < 0 then '-' else '+') ::
          Text.padLeft 2 (Text.decimal exponent.natAbs)

def signText (negative : Bool) : Text := if negative then ['-'] else []

/-- A finite number of a format, with the digits that identify it. -/
def decimalText (format : BinaryFormat) (negative : Bool) (magnitude : Magnitude) : Text :=
  let number := Shortest.ofMagnitude format .upper magnitude
  chosenText (signText negative ++ number.positional []) (signText negative ++ number.plainExponential)

/-- A finite number in 64 bits or narrowed to 32. Narrowing may leave the range of the format; then
both texts of the number are one word. -/
def finiteText (narrow negative : Bool) (magnitude : Magnitude) : Text :=
  if narrow && magnitude.significand != 0 then
    match binary32.round magnitude.numerator magnitude.denominator with
    | some narrowed => decimalText binary32 negative narrowed
    | none => chosenText (signText negative ++ "inf".toList) (signText negative ++ "inf".toList)
  else decimalText binary64 negative magnitude

def floatText (narrow : Bool) (number : Binary64) : Text :=
  match number.datum with
  | .nan => "NaN".toList
  | .infinite negative => (if negative then "-Inf" else "+Inf").toList
  | .finite negative magnitude => finiteText narrow negative magnitude

/-- The number of a payload of a float type; three words stand for the numbers without digits. -/
def number? : Value → Option Binary64
  | .number number => some number
  | .string text =>
    if text = "NaN".toList then some Binary64.nan
    else if text = "Infinity".toList then some (Binary64.infinity false)
    else if text = "-Infinity".toList then some (Binary64.infinity true)
    else (Numeral.float text).toOption
  | _ => none

/-- The integers of 64 bits. -/
def isInt64 (value : Int) : Bool := -(Int.pow 2 63) ≤ value && value < Int.pow 2 63

/-- The integer of a payload: a numeral, or a number without fraction. -/
def integer? : Value → Option Int
  | .string text => (Numeral.integer 10 text).toOption
  | .number number => number.toInt?.filter isInt64
  | _ => none

def boolText (value : Bool) : Text := (if value then "true" else "false").toList

def bytesText (bytes : List UInt8) : Text := "0x".toList ++ Bytes.hexadecimal bytes

/-- A payload other than null under a scalar type; none when it does not have that type. -/
def scalar? : ScalarKind → Value → Option Text
  | .bool, value => value.bool?.map boolText
  | .int64, value => (integer? value).map Text.signedDecimal
  | .float32, value => (number? value).map (floatText true)
  | .float64, value => (number? value).map (floatText false)
  | .string, value => value.string?
  | .bytes, value => (value.string?.bind Base64.decode?).map bytesText
  | .date, value => (value.string?.bind Date.read?).map Date.text
  | .timestamp, value => (value.string?.bind Timestamp.read?).map Timestamp.text
  | .numeric, value => value.string?.bind Fixed.text?
  | .json, value => (value.string?.bind Json.parse?).map Json.compact

end ParamCodec.Display
