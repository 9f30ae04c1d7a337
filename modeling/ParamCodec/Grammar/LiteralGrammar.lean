/-
This file reads literal fragments: scalar literals, array and struct literals, and the few other
expressions that evaluation refuses by name.

The readers of nested expressions are bounded by the length of the source in the same way as those
of nested types.
-/

import ParamCodec.Fragment.Expression
import ParamCodec.Grammar.Number
import ParamCodec.Grammar.Quoted
import ParamCodec.Grammar.TypeGrammar

namespace ParamCodec.Grammar

/-- Points and identifiers after the first identifier of a path. Trivia in front of a point belongs
to the path. -/
def pathSegments : (steps : Nat) → Reader (List Identifier)
  | 0, source => .ok ([], source)
  | steps + 1, source => do
    let rest ← skipTrivia source
    if startsWith '.' rest then
      let rest ← skipTrivia rest.tail
      let (segment, rest) ← identifier rest
      let (segments, rest) ← pathSegments steps rest
      return (segment :: segments, rest)
    else return ([], source)

/-- Identifiers with points between them. -/
def path : Reader Expression := fun source => do
  let (first, rest) ← identifier source
  let (segments, rest) ← pathSegments rest.length rest
  return (.path (first :: segments), rest)

/-- The items of an array literal between brackets. -/
def arrayItems (inner : Reader Expression) : Reader (List Expression) := fun source => do
  let rest ← token '[' source
  listUntil inner ']' rest

/-- A value of a struct literal with an optional alias. -/
def argument (inner : Reader Expression) : Reader (Argument Expression) := fun source => do
  let (expression, rest) ← inner source
  let rest ← skipTrivia rest
  match afterKeyword? "AS".toList rest with
  | some rest =>
    let rest ← skipTrivia rest
    let (label, rest) ← identifier rest
    return (⟨expression, some label⟩, rest)
  | none => return (⟨expression, none⟩, rest)

/-- What follows `STRUCT`: declared fields and values, or values with aliases. -/
def structLiteral (inner : Reader Expression) : Reader Expression := fun source => do
  let rest ← skipTrivia source
  if startsWith '<' rest then
    let (fields, rest) ← structFields type rest
    let rest ← skipTrivia rest
    let rest ← token '(' rest
    let (values, rest) ← listUntil inner ')' rest
    return (.typed fields values, rest)
  else
    let rest ← token '(' rest
    let (arguments, rest) ← listUntil (argument inner) ')' rest
    return (.typeless arguments, rest)

/-- What follows an opening parenthesis: one expression in parentheses, or a tuple. -/
def parentheses (inner : Reader Expression) : Reader Expression := fun source => do
  match ← commaList inner ')' (source.length + 1) source with
  | ([expression], rest) => return (.parenthesized expression, rest)
  | (values, rest) => return (.tuple values, rest)

/-- The literals that are a word with a string after it. -/
def taggedLiteral? (word : Text) : Option (Text → Literal) :=
  if Text.sameWord word "DATE".toList then some .date
  else if Text.sameWord word "TIMESTAMP".toList then some .timestamp
  else if Text.sameWord word "NUMERIC".toList then some .numeric
  else if Text.sameWord word "JSON".toList then some .json
  else none

/-- An expression that starts with a word. -/
def wordExpression (inner : Reader Expression) : Reader Expression := fun source => do
  let (head, rest) ← word source
  if Text.sameWord head "NULL".toList then return (.literal .null, rest)
  else if Text.sameWord head "TRUE".toList then return (.literal (.boolean true), rest)
  else if Text.sameWord head "FALSE".toList then return (.literal (.boolean false), rest)
  else if Text.sameWord head "ARRAY".toList then
    let (element, rest) ← angleType type rest
    let rest ← skipTrivia rest
    let (items, rest) ← arrayItems inner rest
    return (.array element items, rest)
  else if Text.sameWord head "STRUCT".toList then structLiteral inner rest
  else
    match taggedLiteral? head with
    | none => path source
    | some tagged =>
      let rest ← skipTrivia rest
      if Quoted.startsLiteral rest then
        let (text, rest) ← Quoted.text rest
        return (.literal (tagged text), rest)
      else path source

/-- A number starts with a digit, a point or a sign. -/
def isNumberStart (letter : Char) : Bool :=
  letter.isDigit || letter == '.' || letter == '+' || letter == '-'

/-- An expression, with the reader of the expressions inside it. -/
def expressionWith (inner : Reader Expression) : Reader Expression := fun source => do
  let source ← skipTrivia source
  if startsWith '[' source then
    let (items, rest) ← arrayItems inner source
    return (.array none items, rest)
  else if startsWith '(' source then parentheses inner source.tail
  else if startsWith '@' source then
    let (name, rest) ← identifier source.tail
    return (.parameter name, rest)
  else if Quoted.startsLiteral source then
    let (literal, rest) ← Quoted.literal source
    return (.literal literal, rest)
  else if (source.head?.map isNumberStart).getD false then
    let (literal, rest) ← Number.literal source
    return (.literal literal, rest)
  else if startsWith '\x60' source then path source
  else wordExpression inner source

/-- An expression that is nested less deep than the given depth. -/
def expressionAt : (depth : Nat) → Reader Expression
  | 0 => fun source => .error ⟨.identifier, source⟩
  | depth + 1 => expressionWith (expressionAt depth)

/-- An expression of any depth that the source can hold. -/
def expression : Reader Expression := fun source => expressionAt (source.length + 1) source

end ParamCodec.Grammar
