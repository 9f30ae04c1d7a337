/-
This file reads type fragments: `INT64`, `STRING(MAX)`, `ARRAY<T>` and `STRUCT<name T, T, name>`.

Each reader of types takes the reader of the types inside it. The depth of nesting is bounded by the
length of the source, since every level has its own opening bracket.
-/

import ParamCodec.Fragment.TypeFragment
import ParamCodec.Grammar.Word

namespace ParamCodec.Grammar

/-- The greatest length that a type may have. -/
def greatestLength : Nat := Nat.pow 2 64 - 1

/-- A length without its parentheses: `MAX` or a numeral. -/
def typeLength : Reader TypeLength := fun source =>
  match afterKeyword? "MAX".toList source with
  | some rest => .ok (.maximum, rest)
  | none =>
    let digits := source.takeWhile Char.isDigit
    let rest := source.dropWhile Char.isDigit
    if digits.isEmpty then .error ⟨.digits, source⟩
    else if greatestLength < Text.decimalValue digits then .error ⟨.lengthWithinRange, rest⟩
    else .ok (.fixed (Text.decimalValue digits), rest)

/-- A word that is not reserved, with an optional length in parentheses. -/
def namedType : Reader TypeFragment := fun source => do
  let (name, afterName) ← word source
  if isReserved name then throw ⟨.typeName, source⟩
  let rest ← skipTrivia afterName
  if startsWith '(' rest then
    let rest ← skipTrivia rest.tail
    let (length, rest) ← typeLength rest
    let rest ← skipTrivia rest
    let rest ← token ')' rest
    return (.named ⟨name, false⟩ (some length), rest)
  else return (.named ⟨name, false⟩ none, afterName)

/-- A type between angle brackets, or nothing. -/
def angleType (type : Reader TypeFragment) : Reader (Option TypeFragment) := fun source => do
  let rest ← skipTrivia source
  if startsWith '<' rest then
    let (element, rest) ← type rest.tail
    let rest ← skipTrivia rest
    let rest ← token '>' rest
    return (some element, rest)
  else return (none, source)

/-- A member of a struct type: `name T`, a positional `T`, or a bare `name`. A single word that is a
type keyword is a positional type. -/
def structField (type : Reader TypeFragment) : Reader (FieldFragment TypeFragment) :=
  fun source => do
    let source ← skipTrivia source
    if (afterKeyword? "ARRAY".toList source).isSome ||
        (afterKeyword? "STRUCT".toList source).isSome then
      let (positional, rest) ← type source
      return (⟨none, some positional⟩, rest)
    let (name, rest) ← identifier source
    let rest ← skipTrivia rest
    if (rest.head?.map Identifier.isWordStart).getD false then
      let (named, rest) ← type rest
      return (⟨some name, some named⟩, rest)
    else if !name.quoted && isTypeKeyword name.name then
      let (positional, rest) ← type source
      return (⟨none, some positional⟩, rest)
    else return (⟨some name, none⟩, rest)

/-- The members of a struct type between angle brackets. -/
def structFields (type : Reader TypeFragment) : Reader (List (FieldFragment TypeFragment)) :=
  fun source => do
    let rest ← token '<' source
    listUntil (structField type) '>' rest

/-- A type, with the reader of the types inside it. -/
def typeWith (inner : Reader TypeFragment) : Reader TypeFragment := fun source => do
  let source ← skipTrivia source
  match afterKeyword? "ARRAY".toList source, afterKeyword? "STRUCT".toList source with
  | some rest, _ =>
    let (element, rest) ← angleType inner rest
    return (.array element, rest)
  | none, some rest =>
    let rest ← skipTrivia rest
    let (fields, rest) ← structFields inner rest
    return (.struct fields, rest)
  | none, none => namedType source

/-- A type that is nested less deep than the given depth. -/
def typeAt : (depth : Nat) → Reader TypeFragment
  | 0 => fun source => .error ⟨.identifier, source⟩
  | depth + 1 => typeWith (typeAt depth)

/-- A type of any depth that the source can hold. -/
def type : Reader TypeFragment := fun source => typeAt (source.length + 1) source

end ParamCodec.Grammar
