/-
This file reads string and bytes literals.

A literal may have the letters `r` (backslashes stand for themselves) and `b` (bytes) in front, in
either order and case. It stands between one or three equal quotes, and only between three, or behind
the backslash of a raw literal, may it go over the end of a line.
-/

import ParamCodec.Fragment.Literal
import ParamCodec.Grammar.Failure

namespace ParamCodec.Grammar.Quoted

/-- The beginning of a literal: its letters and its quotes. -/
structure Opening where
  raw : Bool
  bytes : Bool
  mark : Char
  triple : Bool
  deriving DecidableEq, Repr

/-- The quotes that close a literal are those that opened it. -/
def Opening.closing (opening : Opening) : Text :=
  if opening.triple then [opening.mark, opening.mark, opening.mark] else [opening.mark]

/-- Takes one letter of a pair of cases off a source, if it stands there. -/
def takeLetter (lower upper : Char) : Text → Bool × Text
  | letter :: rest =>
    if letter = lower ∨ letter = upper then (true, rest) else (false, letter :: rest)
  | [] => (false, [])

/-- The letters `r` and `b`, each at most once: raw or not, bytes or not, and the rest. -/
def letters (source : Text) : Bool × Bool × Text :=
  match takeLetter 'r' 'R' source with
  | (true, rest) => (true, takeLetter 'b' 'B' rest)
  | (false, _) =>
    match takeLetter 'b' 'B' source with
    | (true, rest) =>
      let (raw, rest) := takeLetter 'r' 'R' rest
      (raw, true, rest)
    | (false, _) => (false, false, source)

/-- One or three equal quotes and what follows them. -/
def quotes? : Text → Option (Char × Bool × Text)
  | mark :: rest =>
    if mark = '\x27' ∨ mark = '\x22' then
      match Text.after? [mark, mark] rest with
      | some body => some (mark, true, body)
      | none => some (mark, false, rest)
    else none
  | [] => none

/-- The beginning of a literal and its body, if a literal stands here. -/
def opening? (source : Text) : Option (Opening × Text) :=
  let (raw, bytes, rest) := letters source
  (quotes? rest).map fun (mark, triple, body) => (⟨raw, bytes, mark, triple⟩, body)

def startsLiteral (source : Text) : Bool := (opening? source).isSome

/-- The number that a fixed count of digits denotes. -/
def digits? (radix : Nat) : (count : Nat) → (value : Nat) → Text → Option (Nat × Text)
  | 0, value, source => some (value, source)
  | _ + 1, _, [] => none
  | count + 1, value, letter :: rest =>
    match Text.digitValue? radix letter with
    | some digit => digits? radix count (value * radix + digit) rest
    | none => none

/-- The code point of a number, if there is one. -/
def scalar? (value : Nat) : Option Char :=
  if value.isValidChar then some (Char.ofNat value) else none

def byte? (value : Nat) : Option UInt8 := if value < 256 then some (UInt8.ofNat value) else none

/-- The bytes of the escapes that are one letter long. -/
def shortEscape? (letter : Char) : Option (List UInt8) :=
  if letter = 'n' then some [10]
  else if letter = 'r' then some [13]
  else if letter = 't' then some [9]
  else if letter = 'a' then some [7]
  else if letter = 'b' then some [8]
  else if letter = 'f' then some [12]
  else if letter = 'v' then some [11]
  else if letter = '\x5c' || letter = '\x27' || letter = '\x22' || letter = '\x60' ||
      letter = '?' then
    some (Bytes.ofChar letter)
  else none

/-- The bytes of an escape, read after its backslash. -/
def escape? : Text → Option (List UInt8 × Text)
  | [] => none
  | letter :: rest =>
    match shortEscape? letter with
    | some bytes => some (bytes, rest)
    | none =>
      if letter = 'x' || letter = 'X' then do
        let (value, rest) ← digits? 16 2 0 rest
        let byte ← byte? value
        some ([byte], rest)
      else if letter = 'u' then do
        let (value, rest) ← digits? 16 4 0 rest
        let letter ← scalar? value
        some (Bytes.ofChar letter, rest)
      else if letter = 'U' then do
        let (value, rest) ← digits? 16 8 0 rest
        let letter ← scalar? value
        some (Bytes.ofChar letter, rest)
      else do
        let (value, rest) ← digits? 8 3 0 (letter :: rest)
        let byte ← byte? value
        some ([byte], rest)

/-- The bytes of one unit of a body: an escape, a raw backslash with the letter after it, or a
letter that stands for itself. -/
def unit (opening : Opening) : Text → Except Failure (List UInt8 × Text)
  | [] => .error ⟨.closingQuote, []⟩
  | letter :: rest =>
    if letter = '\x5c' then
      if opening.raw then
        match rest with
        | next :: rest => .ok (Bytes.ofChar letter ++ Bytes.ofChar next, rest)
        | [] => .ok (Bytes.ofChar letter, [])
      else
        match escape? rest with
        | some decoded => .ok decoded
        | none => .error ⟨.escapeSequence, letter :: rest⟩
    else if !opening.triple && (letter = '\n' || letter = '\r') then
      .error ⟨.closingQuote, letter :: rest⟩
    else .ok (Bytes.ofChar letter, rest)

/-- The bytes of the units up to the closing quotes. -/
def body (opening : Opening) : (steps : Nat) → Text → Except Failure (List UInt8 × Text)
  | 0, source => .error ⟨.closingQuote, source⟩
  | steps + 1, source =>
    match Text.after? opening.closing source with
    | some rest => .ok ([], rest)
    | none => do
      let (bytes, rest) ← unit opening source
      let (more, rest) ← body opening steps rest
      return (bytes ++ more, rest)

/-- A string or bytes literal. The bytes of a string have to be UTF-8. -/
def literal : Reader Literal := fun source =>
  match opening? source with
  | none => .error ⟨.stringLiteral, source⟩
  | some (opening, inside) => do
    let (content, rest) ← body opening (inside.length + 1) inside
    if opening.bytes then return (.bytes content, rest)
    else
      match Bytes.toText? content with
      | some text => return (.string text, rest)
      | none => throw ⟨.validUtf8, rest⟩

/-- The text of a string literal; a bytes literal is refused at its beginning. -/
def text : Reader Text := fun source => do
  match ← literal source with
  | (.string text, rest) => return (text, rest)
  | _ => throw ⟨.stringLiteral, source⟩

end ParamCodec.Grammar.Quoted
