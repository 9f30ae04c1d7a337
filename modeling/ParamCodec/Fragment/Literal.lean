/-
This file defines the scalar literals and how they are written.
-/

import ParamCodec.Bytes.Utf8

namespace ParamCodec

/-- A scalar literal. The numbers keep their text until they are evaluated; the text of an integer
has no `0x`. Strings and bytes are decoded. -/
inductive Literal where
  | null
  | boolean (value : Bool)
  | integer (text : Text) (radix : Nat)
  | float (text : Text)
  | string (text : Text)
  | bytes (content : List UInt8)
  | date (text : Text)
  | timestamp (text : Text)
  | numeric (text : Text)
  | json (text : Text)
  deriving DecidableEq, Repr

namespace Literal

/-- The name of the kind of literal, as errors show it. -/
def kind : Literal → Text
  | null => "null".toList
  | boolean _ => "bool".toList
  | integer .. => "int".toList
  | float _ => "float".toList
  | string _ => "string".toList
  | bytes _ => "bytes".toList
  | date _ => "date".toList
  | timestamp _ => "timestamp".toList
  | numeric _ => "numeric".toList
  | json _ => "json".toList

def isControl (letter : Char) : Bool :=
  letter.toNat < 0x20 || (0x7F ≤ letter.toNat && letter.toNat < 0xA0)

/-- A letter between double quotes; control characters become escapes. -/
def escaped (letter : Char) : Text :=
  if letter = '\x22' then ['\x5c', '\x22']
  else if letter = '\x5c' then ['\x5c', '\x5c']
  else if letter = '\n' then ['\x5c', 'n']
  else if letter = '\r' then ['\x5c', 'r']
  else if letter = '\t' then ['\x5c', 't']
  else if isControl letter then '\x5c' :: 'u' :: Text.hexadecimal 4 letter.toNat
  else [letter]

def quotedText (text : Text) : Text := '\x22' :: text.flatMap escaped ++ ['\x22']

/-- A byte between double quotes; only printable ASCII stands for itself. -/
def escapedByte (byte : UInt8) : Text :=
  if byte = 0x22 then ['\x5c', '\x22']
  else if byte = 0x5C then ['\x5c', '\x5c']
  else if 0x20 ≤ byte ∧ byte ≤ 0x7E then [Char.ofNat byte.toNat]
  else '\x5c' :: 'x' :: Text.hexadecimal 2 byte.toNat

/-- An integer of base 16 gets its `0x` between the sign and the digits. -/
def integerText (text : Text) (radix : Nat) : Text :=
  if radix = 16 then (Text.splitSign text).1 ++ "0x".toList ++ (Text.splitSign text).2 else text

/-- The text of a literal. -/
def sql : Literal → Text
  | null => "NULL".toList
  | boolean value => (if value then "TRUE" else "FALSE").toList
  | integer text radix => integerText text radix
  | float text => text
  | string text => quotedText text
  | bytes content => 'b' :: '\x22' :: content.flatMap escapedByte ++ ['\x22']
  | date text => "DATE ".toList ++ quotedText text
  | timestamp text => "TIMESTAMP ".toList ++ quotedText text
  | numeric text => "NUMERIC ".toList ++ quotedText text
  | json text => "JSON ".toList ++ quotedText text

end Literal

end ParamCodec
