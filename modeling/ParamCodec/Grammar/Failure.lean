/-
This file says what a grammar may miss in a source and where it misses it.
-/

import ParamCodec.Text.Basic

namespace ParamCodec.Grammar

/-- What should have stood in the source. -/
inductive Expected where
  | identifier
  | token (letter : Char)
  | endOfInput
  | endOfComment
  | closingBackquote
  | digits
  | number
  | endOfNumber
  | stringLiteral
  | closingQuote
  | escapeSequence
  | validUtf8
  | typeName
  | lengthWithinRange
  deriving DecidableEq, Repr

def Expected.text : Expected → Text
  | identifier => "invalid identifier".toList
  | token letter => "expected \x60".toList ++ [letter, '\x60']
  | endOfInput => "expected end of input".toList
  | endOfComment => "expected end of comment".toList
  | closingBackquote => "expected closing backquote".toList
  | digits => "expected digits".toList
  | number => "expected number".toList
  | endOfNumber => "expected end of number".toList
  | stringLiteral => "expected string literal".toList
  | closingQuote => "expected closing quote".toList
  | escapeSequence => "expected valid escape sequence".toList
  | validUtf8 => "expected valid UTF-8 in string literal".toList
  | typeName => "expected type name".toList
  | lengthWithinRange => "expected length within range".toList

/-- What is missing, and the source from there on. -/
structure Failure where
  expected : Expected
  rest : Text
  deriving DecidableEq, Repr

namespace Failure

/-- How many code points of the rest are shown. -/
def shownLength : Nat := 12

def found (rest : Text) : Text :=
  if rest.isEmpty then "found end of input".toList
  else "found \x60".toList ++ rest.take shownLength ++ ['\x60']

def text (failure : Failure) : Text := failure.expected.text ++ ", ".toList ++ found failure.rest

end Failure

/-- A reader takes the beginning of a source and answers with a result and the rest. -/
abbrev Reader (α : Type) := Text → Except Failure (α × Text)

end ParamCodec.Grammar
