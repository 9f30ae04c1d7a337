/-
This file defines the words of fragments: what a word is, keywords and identifiers.
-/

import ParamCodec.Text.Basic

namespace ParamCodec

/-- A name in a fragment; quoted when it was written between backquotes. -/
structure Identifier where
  name : Text
  quoted : Bool
  deriving DecidableEq, Repr

namespace Identifier

def isWordStart (letter : Char) : Bool := letter.isAlpha || letter == '_'

def isWordPart (letter : Char) : Bool := letter.isAlphanum || letter == '_'

/-- A backquote inside a quoted name gets a backslash in front. -/
def escaped (letter : Char) : Text :=
  if letter = '\x60' then ['\x5c', '\x60'] else [letter]

def sql (identifier : Identifier) : Text :=
  if identifier.quoted then '\x60' :: identifier.name.flatMap escaped ++ ['\x60']
  else identifier.name

end Identifier

/-- The keywords that name the scalar types. -/
def scalarKeywords : List Text :=
  ["BOOL".toList, "INT64".toList, "FLOAT32".toList, "FLOAT64".toList, "STRING".toList,
   "BYTES".toList, "DATE".toList, "TIMESTAMP".toList, "NUMERIC".toList, "JSON".toList]

/-- The words that can never name a type. -/
def reservedWords : List Text :=
  ["NULL".toList, "TRUE".toList, "FALSE".toList, "ARRAY".toList, "STRUCT".toList]

/-- A word is one of the keywords in any case. -/
def isAmong (keywords : List Text) (word : Text) : Bool := keywords.any (Text.sameWord word)

def isReserved (word : Text) : Bool := isAmong reservedWords word

/-- The word starts a type: a scalar keyword, `ARRAY` or `STRUCT`. -/
def isTypeKeyword (word : Text) : Bool :=
  isAmong ("ARRAY".toList :: "STRUCT".toList :: scalarKeywords) word

end ParamCodec
