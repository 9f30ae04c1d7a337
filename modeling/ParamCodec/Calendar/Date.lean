/-
This file defines the days of the calendar and how they are written and read.
-/

import ParamCodec.Text.Blank
import ParamCodec.Text.Digits

namespace ParamCodec

/-- A day of the Gregorian calendar, which also counts the years before its beginning. -/
structure Date where
  year : Int
  month : Nat
  day : Nat
  deriving DecidableEq, Repr

namespace Date

def isLeapYear (year : Int) : Bool := year % 4 == 0 && (year % 100 != 0 || year % 400 == 0)

def daysInMonth (year : Int) (month : Nat) : Nat :=
  if month = 2 then if isLeapYear year then 29 else 28
  else if month = 4 ∨ month = 6 ∨ month = 9 ∨ month = 11 then 30
  else 31

/-- The month and the day exist. -/
def isValid (date : Date) : Bool :=
  1 ≤ date.month && date.month ≤ 12 && 1 ≤ date.day &&
    date.day ≤ daysInMonth date.year date.month

def next (date : Date) : Date :=
  if date.day < daysInMonth date.year date.month then { date with day := date.day + 1 }
  else if date.month < 12 then ⟨date.year, date.month + 1, 1⟩
  else ⟨date.year + 1, 1, 1⟩

def previous (date : Date) : Date :=
  if 1 < date.day then { date with day := date.day - 1 }
  else if 1 < date.month then
    ⟨date.year, date.month - 1, daysInMonth date.year (date.month - 1)⟩
  else ⟨date.year - 1, 12, 31⟩

/-- Years have four digits; a negative year and one with more digits also have a sign. -/
def yearText (year : Int) : Text :=
  let digits := Text.padLeft 4 (Text.decimal year.natAbs)
  if year < 0 then '-' :: digits else if 9999 < year then '+' :: digits else digits

def text (date : Date) : Text :=
  yearText date.year ++ '-' :: Text.padLeft 2 (Text.decimal date.month) ++
    '-' :: Text.padLeft 2 (Text.decimal date.day)

/-- The number that the leading digits denote, at most so many of them, and the rest. -/
def leadingNumber? (limit : Nat) (source : Text) : Option (Nat × Text) :=
  let digits := (source.takeWhile Char.isDigit).take limit
  if digits.isEmpty then none else some (Text.decimalValue digits, source.drop digits.length)

/-- A year with a sign has any number of digits, and without one at most four. -/
def year? (source : Text) : Option (Int × Text) :=
  match source with
  | '-' :: rest => (leadingNumber? rest.length rest).map fun (year, rest) => (-(year : Int), rest)
  | '+' :: rest => (leadingNumber? rest.length rest).map fun (year, rest) => ((year : Int), rest)
  | _ => (leadingNumber? 4 source).map fun (year, rest) => ((year : Int), rest)

/-- The years that have days. -/
def isInRange (year : Int) : Bool := -262143 ≤ year && year ≤ 262142

/-- A year, a month and a day with a hyphen between neighbours. Each may have blanks before it, and
the month and the day have one or two digits. -/
def read? (source : Text) : Option Date := do
  let (year, rest) ← year? (Text.trimLeft source)
  let rest ← Text.after? ['-'] rest
  let (month, rest) ← leadingNumber? 2 (Text.trimLeft rest)
  let rest ← Text.after? ['-'] rest
  let (day, rest) ← leadingNumber? 2 (Text.trimLeft rest)
  let date : Date := ⟨year, month, day⟩
  if rest.isEmpty && isInRange year && date.isValid then some date else none

end Date

end ParamCodec
