/-
This file chooses the decimal digits that identify a binary number.

The numbers that round to a value form an interval around it. Its ends belong to it when the
significand is even. Among the decimals in the interval the choice falls on one with the fewest
digits, and among those on the nearest to the value; the style of the output breaks a tie.
-/

import ParamCodec.Decimal.Binary
import ParamCodec.Text.Digits

namespace ParamCodec

/-- Which of two equally near decimals is taken. -/
inductive Tie where
  | even
  | upper
  deriving DecidableEq, Repr

/-- Significant digits with a point after the first, times ten to the exponent. -/
structure Scientific where
  digits : Text
  exponent : Int
  deriving DecidableEq, Repr

namespace Shortest

/-- A value and the ends of its interval as integers in one decimal unit. -/
structure Interval where
  lower : Nat
  value : Nat
  upper : Nat
  closed : Bool

/-- The gap below a power of two is half the gap above it, unless it is the least exponent. -/
def isNarrowBelow (format : BinaryFormat) (magnitude : Magnitude) : Bool :=
  magnitude.significand == Nat.pow 2 (format.precision - 1) &&
    format.leastExponent < magnitude.exponent

/-- A quarter of the last place is a natural number of the units `10 ^ unitExponent`. -/
def quarter (magnitude : Magnitude) : Nat :=
  Nat.pow 2 (magnitude.exponent - 2).toNat * Nat.pow 5 (2 - magnitude.exponent).toNat

def unitExponent (magnitude : Magnitude) : Int := min (magnitude.exponent - 2) 0

def interval (format : BinaryFormat) (magnitude : Magnitude) : Interval where
  lower :=
    (4 * magnitude.significand - if isNarrowBelow format magnitude then 1 else 2) *
      quarter magnitude
  value := 4 * magnitude.significand * quarter magnitude
  upper := (4 * magnitude.significand + 2) * quarter magnitude
  closed := magnitude.significand % 2 == 0

def Interval.contains (interval : Interval) (point : Nat) : Bool :=
  if interval.closed then interval.lower ≤ point && point ≤ interval.upper
  else interval.lower < point && point < interval.upper

/-- Of the two multiples of a step around the value, the nearer one in the interval. -/
def Interval.onGrid (interval : Interval) (tie : Tie) (step : Nat) : Option Nat :=
  let count := interval.value / step
  let below := count * step
  let above := (count + 1) * step
  match interval.contains below, interval.contains above with
  | false, false => none
  | true, false => some below
  | false, true => some above
  | true, true =>
    match compare (2 * interval.value) (below + above) with
    | .lt => some below
    | .gt => some above
    | .eq => some (if tie = .even ∧ count % 2 = 0 then below else above)

/-- The point on the coarsest grid that has one, of the steps ten to the given power and below. -/
def Interval.coarsest (interval : Interval) (tie : Tie) : Nat → Nat
  | 0 => interval.value
  | power + 1 =>
    match interval.onGrid tie (Nat.pow 10 (power + 1)) with
    | some point => point
    | none => interval.coarsest tie power

/-- The digits without zeros at their end. -/
def withoutTrailingZeros (digits : Text) : Text := (digits.reverse.dropWhile (· == '0')).reverse

/-- The decimal that stands for a magnitude of a format. -/
def ofMagnitude (format : BinaryFormat) (tie : Tie) (magnitude : Magnitude) : Scientific :=
  if magnitude.significand = 0 then ⟨['0'], 0⟩
  else
    let interval := interval format magnitude
    let places := (Text.decimal interval.value).length
    let digits := Text.decimal (interval.coarsest tie (places - 1))
    ⟨withoutTrailingZeros digits, unitExponent magnitude + digits.length - 1⟩

end Shortest

end ParamCodec
