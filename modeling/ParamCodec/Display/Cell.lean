/-
This file shows typed values.
-/

import ParamCodec.Display.Scalar
import ParamCodec.Error.Basic

namespace ParamCodec.Display

/-- What a null is shown as. -/
def nullText : Text := "<null>".toList

/-- A named part of a struct has its name after it. -/
def partText (name text : Text) : Text :=
  if name.isEmpty then text else text ++ " AS ".toList ++ name

def scalar (kind : ScalarKind) (value : Value) : Except Error Text :=
  if value.isNull then .ok nullText
  else
    match scalar? kind value with
    | some text => .ok text
    | none => .error (.mismatch (.scalar kind) value)

def bracketed (parts : List Text) : Text := '[' :: Text.commaSeparated parts ++ [']']

def parenthesized (parts : List Text) : Text := '(' :: Text.commaSeparated parts ++ [')']

mutual

/-- A payload under a type. The type decides; fields and items of a struct are paired as far as both
go, and a payload that is no list has no items. -/
def value : SqlType → Value → Except Error Text
  | .scalar kind, payload => scalar kind payload
  | .array _, .null => .ok nullText
  | .array none, .list [] => .ok (bracketed [])
  | .array none, .list (_ :: _) => .error (.unknownTypeCode TypeCode.unspecified.name)
  | .array (some element), .list items =>
    (items.mapM fun item => value element item).map bracketed
  | .array _, payload => .error (.mismatch .array payload)
  | .struct fields, payload =>
    (structParts fields (payload.list?.getD [])).map parenthesized

def structParts : List (Field SqlType) → List Value → Except Error (List Text)
  | ⟨name, type⟩ :: fields, item :: items => do
    let text ← value type item
    let parts ← structParts fields items
    return partText name text :: parts
  | [], _ => .ok []
  | _, [] => .ok []

end

/-- The text of a typed value. -/
def typed (typed : TypedValue) : Except Error Text := value typed.type typed.value

end ParamCodec.Display
