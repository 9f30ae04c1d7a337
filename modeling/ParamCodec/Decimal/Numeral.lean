/-
This file reads decimal numerals: the integers of 64 bits and the numbers of binary64.
-/

import ParamCodec.Decimal.Binary
import ParamCodec.Text.Digits

namespace ParamCodec

/-- Why a text is no number of the wanted kind. -/
inductive NumeralFault where
  | emptyInteger
  | invalidDigit
  | tooLarge
  | tooSmall
  | emptyFloat
  | malformedFloat
  | outOfRange
  deriving DecidableEq, Repr

def NumeralFault.message : NumeralFault → Text
  | emptyInteger => "cannot parse integer from empty string".toList
  | invalidDigit => "invalid digit found in string".toList
  | tooLarge => "number too large to fit in target type".toList
  | tooSmall => "number too small to fit in target type".toList
  | emptyFloat => "cannot parse float from empty string".toList
  | malformedFloat => "invalid float literal".toList
  | outOfRange => "value out of range".toList

namespace Numeral

/-- The number that digits denote after those already read. It may not pass the limit, and of two
faults the one further left counts. -/
def accumulate (radix limit : Nat) (fault : NumeralFault) : Nat → Text → Except NumeralFault Nat
  | value, [] => .ok value
  | value, letter :: rest =>
    match Text.digitValue? radix letter with
    | none => .error .invalidDigit
    | some digit =>
      if limit < value * radix + digit then .error fault
      else accumulate radix limit fault (value * radix + digit) rest

/-- The integer of 64 bits that a text denotes in a base: an optional sign and digits. -/
def integer (radix : Nat) (text : Text) : Except NumeralFault Int :=
  match Text.splitSign text with
  | ([], []) => .error .emptyInteger
  | (_, []) => .error .invalidDigit
  | (sign, digits) =>
    if sign = ['-'] then
      (accumulate radix (Nat.pow 2 63) .tooSmall 0 digits).map fun value => -(value : Int)
    else (accumulate radix (Nat.pow 2 63 - 1) .tooLarge 0 digits).map fun value => (value : Int)

/-- The parts of a decimal numeral: the digits around the point and the exponent. -/
structure Parts where
  whole : Text
  fraction : Text
  exponent : Int
  deriving DecidableEq, Repr

/-- An optional sign and at least one digit. -/
def exponent? (text : Text) : Option Int :=
  match Text.splitSign text with
  | (_, []) => none
  | (sign, digits) =>
    if digits.all Char.isDigit then
      let size : Int := Text.decimalValue digits
      some (if sign = ['-'] then -size else size)
    else none

/-- The text before the first `e` or `E` and, if there is one, the text after it. -/
def splitExponent (text : Text) : Text × Option Text :=
  match text.dropWhile fun letter => letter ≠ 'e' ∧ letter ≠ 'E' with
  | [] => (text, none)
  | _ :: exponent => (text.takeWhile fun letter => letter ≠ 'e' ∧ letter ≠ 'E', some exponent)

/-- Digits with at most one point and at least one digit, and an optional exponent. -/
def parts? (text : Text) : Option Parts :=
  let (mantissa, written) := splitExponent text
  let power := match written with
    | none => some 0
    | some digits => exponent? digits
  let (whole, fraction) := (Text.splitAtFirst? '.' mantissa).getD (mantissa, [])
  if (whole ++ fraction).isEmpty || !(whole ++ fraction).all Char.isDigit then none
  else power.map fun exponent => ⟨whole, fraction, exponent⟩

/-- All digits of a numeral as one integer. -/
def Parts.digits (parts : Parts) : Nat := Text.decimalValue (parts.whole ++ parts.fraction)

/-- The numeral denotes `digits * 10 ^ scale`. -/
def Parts.scale (parts : Parts) : Int := parts.exponent - parts.fraction.length

/-- The number of binary64 nearest to what a text denotes. -/
def float (text : Text) : Except NumeralFault Binary64 :=
  let (sign, body) := Text.splitSign text
  let negative : Bool := sign == ['-']
  if text.isEmpty then .error .emptyFloat
  else if Text.sameWord body "inf".toList || Text.sameWord body "infinity".toList then
    .ok (Binary64.infinity negative)
  else if Text.sameWord body "nan".toList then .ok Binary64.nan
  else
    match parts? body with
    | some parts => .ok (Binary64.ofDecimal negative parts.digits parts.scale)
    | none => .error .malformedFloat

end Numeral

end ParamCodec
