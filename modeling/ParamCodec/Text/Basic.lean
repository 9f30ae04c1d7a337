/-
This file says what a text is and holds the operations that the grammars and the printers share.
-/

namespace ParamCodec

/-- A text is its code points in order. -/
abbrev Text := List Char

namespace Text

/-- What follows an opening token when the text starts with it. -/
def after? : (token text : Text) → Option Text
  | [], text => some text
  | _ :: _, [] => none
  | expected :: token, found :: text => if expected = found then after? token text else none

/-- The two sides of the first place where a letter stands. -/
def splitAtFirst? (letter : Char) (text : Text) : Option (Text × Text) :=
  match text.dropWhile (· ≠ letter) with
  | [] => none
  | _ :: rest => some (text.takeWhile (· ≠ letter), rest)

/-- The bytes that the code points take in UTF-8. -/
def utf8Length (text : Text) : Nat :=
  text.foldr (fun letter length => letter.utf8Size + length) 0

/-- Only the letters `a` to `z` have another form here. -/
def upper (text : Text) : Text := text.map Char.toUpper

/-- Only the letters `A` to `Z` have another form here. -/
def lower (text : Text) : Text := text.map Char.toLower

/-- Two words are the same keyword when they differ in the case of ASCII letters only. -/
def sameWord (left right : Text) : Bool := upper left == upper right

/-- Parts in order with a comma and a space between neighbours. -/
def commaSeparated (parts : List Text) : Text := List.intercalate ", ".toList parts

end Text

end ParamCodec
