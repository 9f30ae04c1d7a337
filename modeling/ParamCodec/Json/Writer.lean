/-
This file writes JSON trees as text, on one line or indented.
-/

import ParamCodec.Decimal.Style
import ParamCodec.Json.Basic

namespace ParamCodec.Json

/-- Numbers have a point or an exponent, and are positional from `0.00001` to below `10 ^ 16`. -/
def numberStyle : NumberStyle where
  positionalFrom := -5
  positionalBelow := 16
  wholeEnding := ".0".toList
  exponentWidth := 1
  tie := .even

/-- A number that is not finite is written as null. -/
def numberText (number : Binary64) : Text :=
  match number.datum with
  | .finite negative magnitude => numberStyle.text binary64 negative magnitude
  | _ => "null".toList

/-- A letter between the quotes of a string. -/
def escaped (letter : Char) : Text :=
  if letter = '\x22' then ['\x5c', '\x22']
  else if letter = '\x5c' then ['\x5c', '\x5c']
  else if letter.toNat = 8 then ['\x5c', 'b']
  else if letter = '\t' then ['\x5c', 't']
  else if letter = '\n' then ['\x5c', 'n']
  else if letter.toNat = 12 then ['\x5c', 'f']
  else if letter = '\r' then ['\x5c', 'r']
  else if letter.toNat < 32 then '\x5c' :: 'u' :: Text.hexadecimal 4 letter.toNat
  else [letter]

def stringText (text : Text) : Text := '\x22' :: text.flatMap escaped ++ ['\x22']

mutual

/-- The tree on one line without blanks. -/
def compact : Json → Text
  | null => "null".toList
  | bool value => (if value then "true" else "false").toList
  | integer value => Text.signedDecimal value
  | float value => numberText value
  | string text => stringText text
  | array items => '[' :: compactItems items ++ [']']
  | object members => '\x7b' :: compactMembers members ++ ['\x7d']

def compactItems : List Json → Text
  | [] => []
  | [item] => item.compact
  | item :: rest => item.compact ++ ',' :: compactItems rest

def compactMembers : List (Text × Json) → Text
  | [] => []
  | [(key, value)] => stringText key ++ ':' :: value.compact
  | (key, value) :: rest => stringText key ++ ':' :: value.compact ++ ',' :: compactMembers rest

end

/-- A new line with two blanks for each level. -/
def newLine (level : Nat) : Text := '\n' :: List.replicate (2 * level) ' '

mutual

/-- The tree with each item and member on a line of its own. -/
def indented (level : Nat) : Json → Text
  | array [] => "[]".toList
  | array items => '[' :: indentedItems (level + 1) items ++ newLine level ++ [']']
  | object [] => "\x7b\x7d".toList
  | object members => '\x7b' :: indentedMembers (level + 1) members ++ newLine level ++ ['\x7d']
  | scalar => scalar.compact

def indentedItems (level : Nat) : List Json → Text
  | [] => []
  | [item] => newLine level ++ item.indented level
  | item :: rest => newLine level ++ item.indented level ++ ',' :: indentedItems level rest

def indentedMembers (level : Nat) : List (Text × Json) → Text
  | [] => []
  | [(key, value)] => newLine level ++ stringText key ++ ": ".toList ++ value.indented level
  | (key, value) :: rest =>
    newLine level ++ stringText key ++ ": ".toList ++ value.indented level ++
      ',' :: indentedMembers level rest

end

end ParamCodec.Json
