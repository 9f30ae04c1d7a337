/-
This file lays out the digits of a number as text.
-/

import ParamCodec.Decimal.Shortest

namespace ParamCodec

/-- The decisions of a number format. -/
structure NumberStyle where
  /-- Exponents from here on are written positionally. -/
  positionalFrom : Int
  /-- Exponents from here on are written out again. -/
  positionalBelow : Int
  /-- What follows the digits of a whole number in positional form. -/
  wholeEnding : Text
  /-- The least number of digits of a written exponent. -/
  exponentWidth : Nat
  tie : Tie

namespace Scientific

/-- All places of the number, with zeros up to the point. -/
def positional (wholeEnding : Text) (number : Scientific) : Text :=
  match number.exponent with
  | .negSucc places => "0.".toList ++ List.replicate places '0' ++ number.digits
  | .ofNat places =>
    if number.digits.length ≤ places + 1 then
      number.digits ++ List.replicate (places + 1 - number.digits.length) '0' ++ wholeEnding
    else number.digits.take (places + 1) ++ '.' :: number.digits.drop (places + 1)

/-- The digits with a point after the first, if more follow. -/
def mantissa (number : Scientific) : Text :=
  match number.digits with
  | first :: second :: rest => first :: '.' :: second :: rest
  | digits => digits

/-- The mantissa, `e` and the exponent, which has a sign only if it is negative. -/
def plainExponential (number : Scientific) : Text :=
  number.mantissa ++ 'e' :: Text.signedDecimal number.exponent

/-- The mantissa, `e`, a sign and the exponent filled up to a width. -/
def exponential (width : Nat) (number : Scientific) : Text :=
  number.mantissa ++ 'e' :: (if number.exponent < 0 then '-' else '+') ::
    Text.padLeft width (Text.decimal number.exponent.natAbs)

end Scientific

/-- Moderate exponents are written positionally and all others out. -/
def NumberStyle.layout (style : NumberStyle) (number : Scientific) : Text :=
  if style.positionalFrom ≤ number.exponent ∧ number.exponent < style.positionalBelow then
    number.positional style.wholeEnding
  else number.exponential style.exponentWidth

/-- The text of a finite number of a format, with its sign. -/
def NumberStyle.text (style : NumberStyle) (format : BinaryFormat) (negative : Bool)
    (magnitude : Magnitude) : Text :=
  (if negative then ['-'] else []) ++
    style.layout (Shortest.ofMagnitude format style.tie magnitude)

end ParamCodec
