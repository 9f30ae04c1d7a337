/-
This file names places in a source text.
-/

import ParamCodec.Text.Digits

namespace ParamCodec

/-- A range of byte offsets; the end is not part of it. -/
structure Span where
  start : Nat
  stop : Nat
  deriving DecidableEq, Repr

namespace Span

def length (span : Span) : Nat := span.stop - span.start

def isEmpty (span : Span) : Bool := span.stop ≤ span.start

def text (span : Span) : Text :=
  Text.decimal span.start ++ "..".toList ++ Text.decimal span.stop

end Span

/-- Lines and columns count from one, and columns count code points; the rest is in bytes. -/
structure Location where
  line : Nat
  column : Nat
  offset : Nat
  length : Nat
  deriving DecidableEq, Repr

namespace Location

/-- The line on which a source goes on after the given beginning. -/
def lineAfter (consumed : Text) : Nat := 1 + consumed.count '\n'

/-- The column at which a source goes on after the given beginning. -/
def columnAfter (consumed : Text) : Nat :=
  1 + (consumed.reverse.takeWhile (· ≠ '\n')).length

/-- The point of a source that follows the given beginning. -/
def after (consumed : Text) : Location where
  line := lineAfter consumed
  column := columnAfter consumed
  offset := Text.utf8Length consumed
  length := 0

/-- The code points that start before a byte offset. -/
def startingBefore : Nat → Text → Text
  | 0, _ => []
  | _, [] => []
  | offset + 1, letter :: source =>
    letter :: startingBefore (offset + 1 - letter.utf8Size) source

/-- Counts from a place on: every code point that starts before the offset is one more column, and a
line break is one more line. -/
def countFrom (offset start line column : Nat) : Text → Nat × Nat
  | [] => (line, column)
  | letter :: source =>
    if offset ≤ start then (line, column)
    else if letter = '\n' then countFrom offset (start + letter.utf8Size) (line + 1) 1 source
    else countFrom offset (start + letter.utf8Size) line (column + 1) source

/-- The line and the column of a byte offset, counted from the start of the source. -/
def lineColumn (offset : Nat) (source : Text) : Nat × Nat := countFrom offset 0 1 1 source

/-- The place of a span in a source. -/
def ofSpan (span : Span) (source : Text) : Location where
  line := lineAfter (startingBefore span.start source)
  column := columnAfter (startingBefore span.start source)
  offset := span.start
  length := span.length

def span (location : Location) : Span := ⟨location.offset, location.offset + location.length⟩

def text (location : Location) : Text :=
  Text.decimal location.line ++ ":".toList ++ Text.decimal location.column

end Location

end ParamCodec
