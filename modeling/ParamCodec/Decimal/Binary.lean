/-
This file models binary floating-point numbers by exact arithmetic on their bits.

A finite value is a natural number times a power of two. Rounding takes a positive rational number
to the nearest value of a format; half way between two values the even one is taken.
-/

namespace ParamCodec

/-- The width of the significands of a format and the exponents of their last place. -/
structure BinaryFormat where
  precision : Nat
  leastExponent : Int
  greatestExponent : Int

/-- The format of 64 bits. -/
def binary64 : BinaryFormat := ⟨53, -1074, 971⟩

/-- The format of 32 bits. -/
def binary32 : BinaryFormat := ⟨24, -149, 104⟩

/-- The number `significand * 2 ^ exponent`. -/
structure Magnitude where
  significand : Nat
  exponent : Int
  deriving DecidableEq, Repr

namespace Magnitude

/-- The magnitude is `numerator / denominator`. -/
def numerator (magnitude : Magnitude) : Nat :=
  magnitude.significand * Nat.pow 2 magnitude.exponent.toNat

def denominator (magnitude : Magnitude) : Nat := Nat.pow 2 (-magnitude.exponent).toNat

end Magnitude

/-- The integer nearest to a quotient, the even one of two. -/
def roundHalfEven (numerator denominator : Nat) : Nat :=
  let quotient := numerator / denominator
  let remainder := numerator % denominator
  if 2 * remainder < denominator then quotient
  else if denominator < 2 * remainder then quotient + 1
  else quotient + quotient % 2

/-- The exponent that gives a quotient a significand of full width, or the least exponent. -/
def BinaryFormat.exponentOf (format : BinaryFormat) (numerator denominator : Nat) : Int :=
  let guess : Int := (numerator.log2 : Int) - denominator.log2 - format.precision + 1
  let scaled := numerator * Nat.pow 2 (-guess).toNat / (denominator * Nat.pow 2 guess.toNat)
  max (if scaled < Nat.pow 2 (format.precision - 1) then guess - 1 else guess) format.leastExponent

/-- The value of the format nearest to a quotient; none when that is too large. -/
def BinaryFormat.round (format : BinaryFormat) (numerator denominator : Nat) : Option Magnitude :=
  let exponent := format.exponentOf numerator denominator
  let significand :=
    roundHalfEven (numerator * Nat.pow 2 (-exponent).toNat) (denominator * Nat.pow 2 exponent.toNat)
  let rounded : Magnitude :=
    if significand = Nat.pow 2 format.precision then
      ⟨Nat.pow 2 (format.precision - 1), exponent + 1⟩
    else ⟨significand, exponent⟩
  if rounded.exponent ≤ format.greatestExponent then some rounded else none

/-- A number of 64 bits: a sign, eleven bits of exponent and 52 bits of fraction. -/
structure Binary64 where
  bits : UInt64
  deriving DecidableEq, Repr

/-- What the bits of a number stand for. -/
inductive Datum where
  | nan
  | infinite (negative : Bool)
  | finite (negative : Bool) (magnitude : Magnitude)
  deriving DecidableEq, Repr

namespace Binary64

def negative (number : Binary64) : Bool := Nat.pow 2 63 ≤ number.bits.toNat

def exponentField (number : Binary64) : Nat := number.bits.toNat / Nat.pow 2 52 % Nat.pow 2 11

def fractionField (number : Binary64) : Nat := number.bits.toNat % Nat.pow 2 52

def datum (number : Binary64) : Datum :=
  if number.exponentField = 2047 then
    if number.fractionField = 0 then .infinite number.negative else .nan
  else if number.exponentField = 0 then .finite number.negative ⟨number.fractionField, -1074⟩
  else
    .finite number.negative
      ⟨Nat.pow 2 52 + number.fractionField, (number.exponentField : Int) - 1075⟩

def isFinite (number : Binary64) : Bool := number.exponentField != 2047

def isInfinite (number : Binary64) : Bool :=
  number.exponentField == 2047 && number.fractionField == 0

/-- A sign in front of the other 63 bits. -/
def ofFields (negative : Bool) (rest : Nat) : Binary64 :=
  ⟨UInt64.ofNat ((if negative then Nat.pow 2 63 else 0) + rest)⟩

def zero (negative : Bool) : Binary64 := ofFields negative 0

def infinity (negative : Bool) : Binary64 := ofFields negative (2047 * Nat.pow 2 52)

def nan : Binary64 := ofFields false (2047 * Nat.pow 2 52 + Nat.pow 2 51)

/-- The bits of a magnitude of the format. -/
def ofMagnitude (negative : Bool) (magnitude : Magnitude) : Binary64 :=
  if magnitude.significand < Nat.pow 2 52 then ofFields negative magnitude.significand
  else
    ofFields negative
      ((magnitude.exponent + 1075).toNat * Nat.pow 2 52 + (magnitude.significand - Nat.pow 2 52))

/-- The number nearest to a quotient, infinite when the quotient is too large. -/
def ofQuotient (negative : Bool) (numerator denominator : Nat) : Binary64 :=
  if numerator = 0 then zero negative
  else
    match binary64.round numerator denominator with
    | some magnitude => ofMagnitude negative magnitude
    | none => infinity negative

/-- The number nearest to `digits * 10 ^ exponent`. Beyond 400 places on either side of the point
the answer is infinite or zero, since the format ends long before. -/
def ofDecimal (negative : Bool) (digits : Nat) (exponent : Int) : Binary64 :=
  if digits = 0 then zero negative
  else
    let top := exponent + (Nat.toDigits 10 digits).length
    if 400 < top then infinity negative
    else if top < -400 then zero negative
    else ofQuotient negative (digits * Nat.pow 10 exponent.toNat) (Nat.pow 10 (-exponent).toNat)

/-- The nearest number to an integer. -/
def ofInt (value : Int) : Binary64 := ofQuotient (value < 0) value.natAbs 1

/-- The integer that a number is, if it is one. -/
def toInt? (number : Binary64) : Option Int :=
  match number.datum with
  | .finite negative magnitude =>
    if magnitude.numerator % magnitude.denominator = 0 then
      let size : Int := magnitude.numerator / magnitude.denominator
      some (if negative then -size else size)
    else none
  | _ => none

end Binary64

end ParamCodec
