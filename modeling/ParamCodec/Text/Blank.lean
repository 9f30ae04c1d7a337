/-
This file holds the Unicode property White_Space: 25 code points in ten ranges.
-/

import ParamCodec.Text.Basic

namespace ParamCodec.Text

/-- Closed ranges of code points, ascending and apart. -/
def blankRanges : List (Nat × Nat) :=
  [(0x09, 0x0D), (0x20, 0x20), (0x85, 0x85), (0xA0, 0xA0), (0x1680, 0x1680), (0x2000, 0x200A),
   (0x2028, 0x2029), (0x202F, 0x202F), (0x205F, 0x205F), (0x3000, 0x3000)]

/-- A code point lies in one of the ranges. -/
def inRanges (ranges : List (Nat × Nat)) (letter : Char) : Bool :=
  ranges.any fun range => range.1 ≤ letter.toNat && letter.toNat ≤ range.2

def isBlank (letter : Char) : Bool := inRanges blankRanges letter

/-- The text without its leading blanks. -/
def trimLeft (text : Text) : Text := text.dropWhile isBlank

/-- The text without its leading and trailing blanks. -/
def trim (text : Text) : Text := (trimLeft (trimLeft text).reverse).reverse

end ParamCodec.Text
