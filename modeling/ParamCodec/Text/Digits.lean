/-
This file reads and writes numerals in a base.
-/

import ParamCodec.Text.Basic

namespace ParamCodec.Text

/-- The value of a digit in a base up to 36; letters of either case follow the nine. -/
def digitValue? (radix : Nat) (letter : Char) : Option Nat :=
  let value :=
    if letter.isDigit then some (letter.toNat - 48)
    else if letter.isLower then some (letter.toNat - 87)
    else if letter.isUpper then some (letter.toNat - 55)
    else none
  value.filter (· < radix)

def isHexDigit (letter : Char) : Bool := (digitValue? 16 letter).isSome

/-- The decimal numeral of a natural number. -/
def decimal (value : Nat) : Text := Nat.toDigits 10 value

/-- The decimal numeral of an integer; only a negative one has a sign. -/
def signedDecimal (value : Int) : Text :=
  if value < 0 then '-' :: decimal value.natAbs else decimal value.natAbs

/-- A numeral filled up with zeros on its left. -/
def padLeft (width : Nat) (digits : Text) : Text :=
  List.replicate (width - digits.length) '0' ++ digits

/-- The lower case hexadecimal numeral with at least the given number of digits. -/
def hexadecimal (width value : Nat) : Text := padLeft width (Nat.toDigits 16 value)

/-- The number that decimal digits denote; other letters count as zero. -/
def decimalValue (digits : Text) : Nat :=
  digits.foldl (fun value letter => value * 10 + (digitValue? 10 letter).getD 0) 0

/-- An optional sign and what follows it. -/
def splitSign : Text → Text × Text
  | '+' :: rest => (['+'], rest)
  | '-' :: rest => (['-'], rest)
  | rest => ([], rest)

end ParamCodec.Text
