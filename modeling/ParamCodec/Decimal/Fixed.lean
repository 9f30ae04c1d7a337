/-
This file writes exact decimals with nine places after the point.

The digits are rounded one by one, so that a number of any size keeps all of them.
-/

import ParamCodec.Decimal.Numeral

namespace ParamCodec.Fixed

/-- The digits after the point. -/
def places : Nat := 9

/-- Larger exponents are refused. -/
def exponentLimit : Nat := 1024

/-- The digit that a letter stands for. -/
def digit (letter : Char) : Fin 10 := Fin.ofNat 10 (letter.toNat - '0'.toNat)

def letter (digit : Fin 10) : Char := Nat.digitChar digit.val

/-- Digits and how many of them stand in front of the point. -/
structure Pointed where
  digits : List (Fin 10)
  point : Nat
  deriving DecidableEq, Repr

/-- The digits of a numeral with its point moved by the exponent. A point that would stand left of the
first digit gets zeros behind it. -/
def shift (parts : Numeral.Parts) : Pointed :=
  let digits := (parts.whole ++ parts.fraction).map digit
  match (parts.whole.length : Int) + parts.exponent with
  | .ofNat point => ⟨digits, point⟩
  | .negSucc missing => ⟨List.replicate (missing + 1) 0 ++ digits, 0⟩

/-- Adds one to the last digit; the flag is a carry past the first one. -/
def increment : List (Fin 10) → Bool × List (Fin 10)
  | [] => (true, [])
  | first :: others =>
    match increment others with
    | (true, others) => if first = 9 then (true, 0 :: others) else (false, (first + 1) :: others)
    | (false, others) => (false, first :: others)

/-- One more in the last place. A carry past the first digit puts a one in front of the point. -/
def Pointed.next (number : Pointed) : Pointed :=
  match increment number.digits with
  | (true, digits) => ⟨1 :: digits, number.point + 1⟩
  | (false, digits) => ⟨digits, number.point⟩

/-- The digits as far as nine places, filled up with zeros. -/
def Pointed.cut (number : Pointed) : Pointed :=
  let kept := number.point + places
  ⟨number.digits.take kept ++ List.replicate (kept - number.digits.length) 0, number.point⟩

/-- The number with nine places; the first digit that is cut off decides which of two. -/
def Pointed.rounded (number : Pointed) : Pointed :=
  if number.digits[number.point + places]?.any (5 ≤ ·) then number.cut.next else number.cut

/-- The integer part, without zeros in front of it but for one that stands alone. -/
def wholeText (digits : List (Fin 10)) : Text :=
  match digits.dropWhile (· = 0) with
  | [] => ['0']
  | significant => significant.map letter

/-- Digits with the point among them. -/
def Pointed.layout (number : Pointed) : Text :=
  wholeText (number.digits.take number.point) ++ '.' :: (number.digits.drop number.point).map letter

/-- The text of a signed decimal numeral, a half rounded away from zero. A minus sign stays only in
front of digits that are not all zero. -/
def text? (text : Text) : Option Text := do
  let (sign, body) := Text.splitSign text
  let parts ← Numeral.parts? body
  if exponentLimit < parts.exponent.natAbs then none
  else
    let number := shift parts
    let minus := if sign = ['-'] ∧ number.digits.any (· ≠ 0) then ['-'] else []
    some (minus ++ number.rounded.layout)

end ParamCodec.Fixed
