/-
This file reads number literals. Their text is kept as it was written.
-/

import ParamCodec.Fragment.Literal
import ParamCodec.Grammar.Failure

namespace ParamCodec.Grammar.Number

/-- The digits after `0x` or `0X` and the rest, if there is a digit. -/
def hexDigits? : Text → Option (Text × Text)
  | '0' :: mark :: rest =>
    let digits := rest.takeWhile Text.isHexDigit
    if (mark == 'x' || mark == 'X') && !digits.isEmpty then
      some (digits, rest.dropWhile Text.isHexDigit)
    else none
  | _ => none

/-- A point and the digits after it. Without a digit on either side of it a point is not taken. -/
def fraction (whole source : Text) : Text × Text :=
  match source with
  | '.' :: rest =>
    let digits := rest.takeWhile Char.isDigit
    if whole.isEmpty && digits.isEmpty then ([], source)
    else ('.' :: digits, rest.dropWhile Char.isDigit)
  | _ => ([], source)

/-- The letter `e` of either case, an optional sign and digits. Without a digit nothing is taken. -/
def exponent (source : Text) : Text × Text :=
  match source with
  | mark :: rest =>
    let (sign, rest) := Text.splitSign rest
    let digits := rest.takeWhile Char.isDigit
    if (mark == 'e' || mark == 'E') && !digits.isEmpty then
      (mark :: sign ++ digits, rest.dropWhile Char.isDigit)
    else ([], source)
  | [] => ([], source)

/-- A number may not run into a letter, a digit, an underscore or a point. -/
def boundary : Text → Except Failure Unit
  | letter :: rest =>
    if letter.isAlphanum || letter == '_' || letter == '.' then
      .error ⟨.endOfNumber, letter :: rest⟩
    else .ok ()
  | [] => .ok ()

/-- The body of a decimal number after its sign. With a point or an exponent it is a float, and an
integer otherwise. -/
def decimal (source sign body : Text) : Except Failure (Literal × Text) := do
  let whole := body.takeWhile Char.isDigit
  let (places, rest) := fraction whole (body.dropWhile Char.isDigit)
  if whole.isEmpty && places.isEmpty then throw ⟨.number, source⟩
  let (power, rest) := exponent rest
  boundary rest
  let text := sign ++ whole ++ places ++ power
  return (if places.isEmpty && power.isEmpty then .integer text 10 else .float text, rest)

/-- An optional sign, then a hexadecimal integer or a decimal number. -/
def literal : Reader Literal := fun source => do
  let (sign, body) := Text.splitSign source
  match hexDigits? body with
  | some (digits, rest) =>
    boundary rest
    return (.integer (sign ++ digits) 16, rest)
  | none => decimal source sign body

end ParamCodec.Grammar.Number
