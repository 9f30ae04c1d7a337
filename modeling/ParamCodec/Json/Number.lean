/-
This file gives the numerals of JSON their numbers.

A whole numeral that fits 64 bits is an integer. Every other numeral keeps the leading digits that
fit 64 bits without sign; these are rounded to binary64 and then multiplied or divided by a power of
ten.
-/

import ParamCodec.Json.Basic
import ParamCodec.Text.Digits

namespace ParamCodec.Json

/-- The parts of a numeral: the digits before and after the point and the exponent. -/
structure Numeral where
  negative : Bool
  whole : Text
  fraction : Option Text
  exponent : Option Int

/-- The digits taken while the number they make fits 64 bits, and those left over. -/
def fitting : Nat → Text → Nat × Text
  | value, [] => (value, [])
  | value, letter :: rest =>
    let next := value * 10 + Text.decimalValue [letter]
    if next < Nat.pow 2 64 then fitting next rest else (value, letter :: rest)

/-- The largest power of ten that is used in one step. -/
def greatestPower : Nat := 308

def powerOfTen (power : Nat) : Magnitude :=
  (binary64.round (Nat.pow 10 power) 1).getD ⟨0, 0⟩

/-- A magnitude times a power of ten; none when the product is too large. -/
def scaledUp (magnitude : Magnitude) (power : Nat) : Option Magnitude :=
  if magnitude.significand = 0 then some magnitude
  else if greatestPower < power then none
  else
    let factor := powerOfTen power
    binary64.round (magnitude.numerator * factor.numerator)
      (magnitude.denominator * factor.denominator)

/-- A magnitude divided by powers of ten, the largest first. After three of them nothing is left of
a number below `2 ^ 64`. -/
def scaledDown : (steps : Nat) → Magnitude → (power : Nat) → Option Magnitude
  | 0, magnitude, _ => some magnitude
  | steps + 1, magnitude, power =>
    if magnitude.significand = 0 then some magnitude
    else
      let factor := powerOfTen (min power greatestPower)
      match binary64.round (magnitude.numerator * factor.denominator)
        (magnitude.denominator * factor.numerator) with
      | none => none
      | some quotient =>
        if power ≤ greatestPower then some quotient
        else scaledDown steps quotient (power - greatestPower)

/-- The number of a significand and a power of ten; none when it is too large. -/
def ofScaled (negative : Bool) (significand : Nat) (exponent : Int) : Option Json :=
  let start : Magnitude :=
    if significand = 0 then ⟨0, 0⟩ else (binary64.round significand 1).getD ⟨0, 0⟩
  let scaled := match exponent with
    | .ofNat power => scaledUp start power
    | .negSucc power => scaledDown 4 start (power + 1)
  scaled.map fun magnitude => .float (Binary64.ofMagnitude negative magnitude)

/-- The number of a numeral; none when it is too large. -/
def Numeral.number? (numeral : Numeral) : Option Json :=
  let (leading, dropped) := fitting 0 numeral.whole
  match numeral.fraction, numeral.exponent with
  | none, none =>
    if !dropped.isEmpty then ofScaled numeral.negative leading dropped.length
    else if !numeral.negative then some (.integer leading)
    else if leading = 0 || Nat.pow 2 63 < leading then ofScaled true leading 0
    else some (.integer (-(leading : Int)))
  | fraction, exponent =>
    let places := fraction.getD []
    let (significand, unused) := fitting leading places
    ofScaled numeral.negative significand
      (exponent.getD 0 + dropped.length - (places.length - unused.length : Nat))

end ParamCodec.Json
