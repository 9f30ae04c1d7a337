/-
This file defines points in time and how they are written and read.

A leap second is held as the last second of its minute with a billion nanoseconds on top.
-/

import ParamCodec.Calendar.Date

namespace ParamCodec

/-- A point in time: a day, the minute of the day, the second and the nanoseconds. -/
structure Timestamp where
  date : Date
  minute : Nat
  second : Nat
  nanosecond : Nat
  deriving DecidableEq, Repr

namespace Timestamp

def minutesPerDay : Nat := 1440

def nanosecondsPerSecond : Nat := 1000000000

/-- The same point with its clock set back by less than a day of minutes, or forward by a negative
number of them. -/
def setBack (timestamp : Timestamp) (minutes : Int) : Timestamp :=
  let minute : Int := timestamp.minute - minutes
  if minute < 0 then
    { timestamp with date := timestamp.date.previous, minute := (minute + minutesPerDay).toNat }
  else if minutesPerDay ≤ minute then
    { timestamp with date := timestamp.date.next, minute := (minute - minutesPerDay).toNat }
  else { timestamp with minute := minute.toNat }

/-- Exactly so many digits. -/
def exactly? (count : Nat) (source : Text) : Option (Nat × Text) :=
  if ((source.take count).filter Char.isDigit).length = count then
    some (Text.decimalValue (source.take count), source.drop count)
  else none

/-- The nanoseconds after a point; digits after the ninth do not count. -/
def fraction? (source : Text) : Option (Nat × Text) :=
  match source with
  | '.' :: rest =>
    let digits := rest.takeWhile Char.isDigit
    if digits.isEmpty then none
    else
      let counted := digits.take 9
      let value := Text.decimalValue counted * Nat.pow 10 (9 - counted.length)
      some (value, rest.dropWhile Char.isDigit)
  | _ => some (0, source)

/-- The minutes by which a clock is ahead: `Z`, or a sign with hours and minutes. -/
def offset? (source : Text) : Option (Int × Text) :=
  match source with
  | [] => none
  | sign :: rest =>
    if sign = 'Z' ∨ sign = 'z' then some (0, rest)
    else if sign = '+' ∨ sign = '-' ∨ sign = '\u2212' then do
      let (hours, rest) ← exactly? 2 rest
      let rest ← Text.after? [':'] rest
      let (minutes, rest) ← exactly? 2 rest
      if 23 < hours || 59 < minutes then none
      else
        let ahead : Int := hours * 60 + minutes
        some (if sign = '+' then ahead else -ahead, rest)
    else none

/-- A date and a time of the clock of some place, with the offset of that clock. The second 60 is a
leap second. -/
def read? (source : Text) : Option Timestamp := do
  let (year, rest) ← exactly? 4 source
  let rest ← Text.after? ['-'] rest
  let (month, rest) ← exactly? 2 rest
  let rest ← Text.after? ['-'] rest
  let (day, rest) ← exactly? 2 rest
  let rest ← match rest with
    | letter :: rest => if letter = 'T' ∨ letter = 't' ∨ letter = ' ' then some rest else none
    | [] => none
  let (hour, rest) ← exactly? 2 rest
  let rest ← Text.after? [':'] rest
  let (minute, rest) ← exactly? 2 rest
  let rest ← Text.after? [':'] rest
  let (second, rest) ← exactly? 2 rest
  let (nanosecond, rest) ← fraction? rest
  let (ahead, rest) ← offset? rest
  let date : Date := ⟨year, month, day⟩
  if !rest.isEmpty || !date.isValid || 23 < hour || 59 < minute || 60 < second then none
  else
    let leap := if second = 60 then nanosecondsPerSecond else 0
    let clock : Timestamp := ⟨date, hour * 60 + minute, min second 59, nanosecond + leap⟩
    some (clock.setBack ahead)

/-- A fraction without zeros at its end; nothing when it is zero. -/
def fractionText (nanosecond : Nat) : Text :=
  if nanosecond = 0 then []
  else
    '.' :: ((Text.padLeft 9 (Text.decimal nanosecond)).reverse.dropWhile (· == '0')).reverse

/-- The point on the clock of UTC. A leap second is counted in the seconds too. -/
def text (timestamp : Timestamp) : Text :=
  timestamp.date.text ++ 'T' :: Text.padLeft 2 (Text.decimal (timestamp.minute / 60)) ++
    ':' :: Text.padLeft 2 (Text.decimal (timestamp.minute % 60)) ++
    ':' :: Text.padLeft 2
      (Text.decimal (timestamp.second + timestamp.nanosecond / nanosecondsPerSecond)) ++
    fractionText timestamp.nanosecond ++ ['Z']

end Timestamp

end ParamCodec
