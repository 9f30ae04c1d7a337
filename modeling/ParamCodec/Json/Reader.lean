/-
This file reads JSON texts strictly. Arrays and objects may be nested 127 levels deep, the last
value of a repeated key counts, and objects are held in key order.
-/

import ParamCodec.Json.Number

namespace ParamCodec.Json

/-- The deepest nesting of arrays and objects. -/
def greatestDepth : Nat := 127

/-- A reader answers with a result and the text that follows it. -/
abbrev Reader (α : Type) := Text → Option (α × Text)

def isSpace (letter : Char) : Bool :=
  letter == ' ' || letter == '\t' || letter == '\n' || letter == '\r'

def skipSpaces (text : Text) : Text := text.dropWhile isSpace

/-- The unit of 16 bits that four hexadecimal digits denote. -/
def unit? : Reader Nat
  | first :: second :: third :: fourth :: rest => do
    let a ← Text.digitValue? 16 first
    let b ← Text.digitValue? 16 second
    let c ← Text.digitValue? 16 third
    let d ← Text.digitValue? 16 fourth
    some (((a * 16 + b) * 16 + c) * 16 + d, rest)
  | _ => none

/-- The letter after `\u`: one unit outside the surrogates, or a high and a low surrogate. -/
def unicodeEscape? : Reader Char := fun text => do
  let (unit, rest) ← unit? text
  if unit < 0xD800 || 0xE000 ≤ unit then some (Char.ofNat unit, rest)
  else if 0xDC00 ≤ unit then none
  else
    match rest with
    | '\x5c' :: 'u' :: rest => do
      let (low, rest) ← unit? rest
      if 0xDC00 ≤ low && low < 0xE000 then
        some (Char.ofNat (0x10000 + (unit - 0xD800) * 0x400 + (low - 0xDC00)), rest)
      else none
    | _ => none

/-- The letter that follows a backslash. -/
def escape? : Reader Char
  | [] => none
  | letter :: rest =>
    if letter = '\x22' || letter = '\x5c' || letter = '/' then some (letter, rest)
    else if letter = 'b' then some (Char.ofNat 8, rest)
    else if letter = 'f' then some (Char.ofNat 12, rest)
    else if letter = 'n' then some ('\n', rest)
    else if letter = 'r' then some ('\r', rest)
    else if letter = 't' then some ('\t', rest)
    else if letter = 'u' then unicodeEscape? rest
    else none

/-- The letters up to the closing quote; each step takes at least one letter of the text. -/
def stringBody : (steps : Nat) → Reader Text
  | 0, _ => none
  | _, [] => none
  | steps + 1, letter :: rest =>
    if letter = '\x22' then some ([], rest)
    else if letter = '\x5c' then do
      let (decoded, rest) ← escape? rest
      let (more, rest) ← stringBody steps rest
      some (decoded :: more, rest)
    else if letter.toNat < 32 then none
    else do
      let (more, rest) ← stringBody steps rest
      some (letter :: more, rest)

def string? : Reader Text
  | '\x22' :: rest => stringBody (rest.length + 1) rest
  | _ => none

/-- A digit other than zero and more digits, or a single zero. -/
def whole? : Reader Text
  | '0' :: rest => some (['0'], rest)
  | text =>
    let digits := text.takeWhile Char.isDigit
    if digits.isEmpty then none else some (digits, text.dropWhile Char.isDigit)

/-- A point and at least one digit, or nothing. -/
def fraction? : Reader (Option Text)
  | '.' :: rest =>
    let digits := rest.takeWhile Char.isDigit
    if digits.isEmpty then none else some (some digits, rest.dropWhile Char.isDigit)
  | text => some (none, text)

/-- The letter `e` of either case, a sign or none, and at least one digit, or nothing. -/
def exponent? : Reader (Option Int)
  | letter :: rest =>
    if letter = 'e' || letter = 'E' then
      let (sign, rest) := Text.splitSign rest
      let digits := rest.takeWhile Char.isDigit
      if digits.isEmpty then none
      else
        let size : Int := Text.decimalValue digits
        some (some (if sign = ['-'] then -size else size), rest.dropWhile Char.isDigit)
    else some (none, letter :: rest)
  | [] => some (none, [])

def number? : Reader Json := fun text => do
  let (negative, text) := match text with
    | '-' :: rest => (true, rest)
    | _ => (false, text)
  let (whole, rest) ← whole? text
  let (fraction, rest) ← fraction? rest
  let (exponent, rest) ← exponent? rest
  let number ← Numeral.number? ⟨negative, whole, fraction, exponent⟩
  some (number, rest)

/-- Items with commas between them, up to the closing bracket. -/
def items? (item : Reader Json) : (steps : Nat) → Reader (List Json)
  | 0, _ => none
  | steps + 1, text => do
    let (first, rest) ← item (skipSpaces text)
    match skipSpaces rest with
    | ',' :: rest => do
      let (more, rest) ← items? item steps rest
      some (first :: more, rest)
    | ']' :: rest => some ([first], rest)
    | _ => none

/-- A key, a colon and a value. -/
def member (item : Reader Json) : Reader (Text × Json) := fun text => do
  let (key, rest) ← string? (skipSpaces text)
  match skipSpaces rest with
  | ':' :: rest => do
    let (value, rest) ← item (skipSpaces rest)
    some ((key, value), rest)
  | _ => none

/-- Members with commas between them, up to the closing brace. -/
def members? (item : Reader Json) : (steps : Nat) → Reader (List (Text × Json))
  | 0, _ => none
  | steps + 1, text => do
    let (first, rest) ← member item text
    match skipSpaces rest with
    | ',' :: rest => do
      let (more, rest) ← members? item steps rest
      some (first :: more, rest)
    | '\x7d' :: rest => some ([first], rest)
    | _ => none

/-- Members in key order; the last value of a repeated key counts. -/
def inKeyOrder (members : List (Text × Json)) : List (Text × Json) :=
  members.foldl (fun earlier entry => insertMember entry.1 entry.2 earlier) []

/-- A value whose items and members come from another reader, if it may have any. -/
def valueWith (item : Option (Reader Json)) : Reader Json := fun text =>
  match text, item with
  | '[' :: rest, some item =>
    match skipSpaces rest with
    | ']' :: rest => some (.array [], rest)
    | rest => (items? item (rest.length + 1) rest).map fun (items, rest) => (.array items, rest)
  | '\x7b' :: rest, some item =>
    match skipSpaces rest with
    | '\x7d' :: rest => some (.object [], rest)
    | rest =>
      (members? item (rest.length + 1) rest).map fun (members, rest) =>
        (.object (inKeyOrder members), rest)
  | '\x22' :: rest, _ => (string? ('\x22' :: rest)).map fun (text, rest) => (.string text, rest)
  | text, _ =>
    match Text.after? "null".toList text, Text.after? "true".toList text,
      Text.after? "false".toList text with
    | some rest, _, _ => some (.null, rest)
    | _, some rest, _ => some (.bool true, rest)
    | _, _, some rest => some (.bool false, rest)
    | none, none, none => number? text

/-- A value with at most the given depth of nesting. -/
def value? : (depth : Nat) → Reader Json
  | 0 => valueWith none
  | depth + 1 => valueWith (some (value? depth))

/-- The tree of a whole text; none when the text is no JSON. -/
def parse? (text : Text) : Option Json :=
  match value? greatestDepth (skipSpaces text) with
  | some (json, rest) => if (skipSpaces rest).isEmpty then some json else none
  | none => none

end ParamCodec.Json
