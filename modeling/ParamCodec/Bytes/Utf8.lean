/-
This file relates texts to their bytes.
-/

import ParamCodec.Text.Digits

namespace ParamCodec.Bytes

/-- The UTF-8 bytes of one code point. -/
def ofChar (letter : Char) : List UInt8 := String.utf8EncodeChar letter

/-- The UTF-8 bytes of a text. -/
def ofText (text : Text) : List UInt8 := text.flatMap ofChar

/-- The text that the bytes encode, if they are well-formed UTF-8. -/
def toText? (bytes : List UInt8) : Option Text :=
  (ByteArray.mk bytes.toArray).utf8Decode?.map Array.toList

/-- Two lower case hexadecimal digits for each byte. -/
def hexadecimal (bytes : List UInt8) : Text :=
  bytes.flatMap fun byte => Text.hexadecimal 2 byte.toNat

end ParamCodec.Bytes
