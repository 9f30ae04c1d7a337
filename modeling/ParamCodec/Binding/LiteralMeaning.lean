/-
This file evaluates literal fragments to typed values.

A null has type INT64. An array has the type of its annotation or of its first item, a struct the
declared types of its fields or those of its values; payloads are never converted.
-/

import ParamCodec.Binding.TypeMeaning
import ParamCodec.Bytes.Base64

namespace ParamCodec

/-- The typed value of a scalar literal. -/
def Literal.evaluate (literal : Literal) : Except Error TypedValue :=
  match literal with
  | null => .ok (.absent (.scalar .int64))
  | boolean value => .ok ⟨.scalar .bool, .bool value⟩
  | integer text radix =>
    match Numeral.integer radix text with
    | .ok value => .ok ⟨.scalar .int64, .string (Text.signedDecimal value)⟩
    | .error fault => .error (.invalidNumeral literal fault)
  | float text =>
    match Numeral.float text with
    | .ok value =>
      if value.isInfinite then .error (.invalidNumeral literal .outOfRange)
      else .ok ⟨.scalar .float64, .number value⟩
    | .error fault => .error (.invalidNumeral literal fault)
  | string text => .ok ⟨.scalar .string, .string text⟩
  | bytes content => .ok ⟨.scalar .bytes, .string (Base64.encode content)⟩
  | date text => .ok ⟨.scalar .date, .string text⟩
  | timestamp text => .ok ⟨.scalar .timestamp, .string text⟩
  | numeric text => .ok ⟨.scalar .numeric, .string text⟩
  | json text => .ok ⟨.scalar .json, .string text⟩

/-- A member of a struct before its field type is settled. -/
structure Member where
  name : Text
  declared : Option SqlType
  typed : TypedValue

namespace Member

/-- A declared type wins over the type of the value. -/
def field (member : Member) : Field SqlType :=
  ⟨member.name, member.declared.getD member.typed.type⟩

/-- The struct of some members in their order. -/
def assemble (members : List Member) : TypedValue :=
  ⟨.struct (members.map field), .list (members.map (·.typed.value))⟩

/-- Declared fields and values in pairs, as far as both go. -/
def declare :
    List (FieldFragment TypeFragment) → List TypedValue → Except Error (List Member)
  | ⟨name, type⟩ :: fields, typed :: rest => do
    let declared ← TypeFragment.resolveOptional type
    let members ← declare fields rest
    return ⟨TypeFragment.nameText name, declared, typed⟩ :: members
  | [], _ => .ok []
  | _, [] => .ok []

end Member

namespace Expression

mutual

/-- The typed value of an expression. Annotations of arrays are resolved before their items,
declared types of fields after all values of their struct. -/
def evaluate : Expression → Except Error TypedValue
  | literal value => value.evaluate
  | array element items => do
    let annotated ← TypeFragment.resolveOptional element
    let values ← evaluateAll items
    return ⟨.array (annotated <|> values.head?.map (·.type)), .list (values.map (·.value))⟩
  | typeless arguments => do
    let members ← evaluateArguments arguments
    return Member.assemble members
  | tuple values => do
    let values ← evaluateAll values
    return Member.assemble (values.map fun typed => ⟨[], none, typed⟩)
  | typed fields values => do
    let values ← evaluateAll values
    let members ← Member.declare fields values
    return Member.assemble members
  | parenthesized inner => .error (.unsupported (parenthesized inner))
  | path segments => .error (.unsupported (path segments))
  | parameter name => .error (.unsupported (parameter name))

def evaluateAll : List Expression → Except Error (List TypedValue)
  | [] => .ok []
  | expression :: rest => do
    let typed ← expression.evaluate
    let more ← evaluateAll rest
    return typed :: more

def evaluateArguments : List (Argument Expression) → Except Error (List Member)
  | [] => .ok []
  | ⟨expression, label⟩ :: rest => do
    let typed ← expression.evaluate
    let members ← evaluateArguments rest
    return ⟨TypeFragment.nameText label, none, typed⟩ :: members

end

end Expression

end ParamCodec
