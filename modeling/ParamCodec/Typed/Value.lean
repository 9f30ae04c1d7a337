/-
This file defines the payloads of parameters and when a payload has the shape of a type.
-/

import ParamCodec.Decimal.Binary
import ParamCodec.Typed.SqlType

namespace ParamCodec

/-- The payload of a parameter. A struct is the list of its values in the order of its fields. -/
inductive Value where
  | null
  | bool (value : Bool)
  | number (value : Binary64)
  | string (text : Text)
  | list (items : List Value)

namespace Value

/-- The name of the kind of payload. -/
def kind : Value → Text
  | null => "null".toList
  | bool _ => "bool".toList
  | number _ => "number".toList
  | string _ => "string".toList
  | list _ => "list".toList

def isNull : Value → Bool
  | null => true
  | _ => false

def bool? : Value → Option Bool
  | bool value => some value
  | _ => none

def number? : Value → Option Binary64
  | number value => some value
  | _ => none

def string? : Value → Option Text
  | string text => some text
  | _ => none

def list? : Value → Option (List Value)
  | list items => some items
  | _ => none

mutual

def decideEq (left right : Value) : Decidable (left = right) :=
  match left with
  | null => by
    cases right with
    | null => exact isTrue rfl
    | _ => exact isFalse (by simp)
  | bool value => by
    cases right with
    | bool other => exact decidable_of_iff (value = other) (by simp)
    | _ => exact isFalse (by simp)
  | number value => by
    cases right with
    | number other => exact decidable_of_iff (value = other) (by simp)
    | _ => exact isFalse (by simp)
  | string text => by
    cases right with
    | string other => exact decidable_of_iff (text = other) (by simp)
    | _ => exact isFalse (by simp)
  | list items => by
    cases right with
    | list others =>
      have := decideEqList items others
      exact decidable_of_iff (items = others) (by simp)
    | _ => exact isFalse (by simp)

def decideEqList : (left right : List Value) → Decidable (left = right)
  | [], [] => isTrue rfl
  | [], _ :: _ => isFalse (by simp)
  | _ :: _, [] => isFalse (by simp)
  | value :: rest, other :: others =>
    match decideEq value other, decideEqList rest others with
    | isTrue h, isTrue hs => isTrue (by rw [h, hs])
    | isFalse h, _ => isFalse (by simp [h])
    | _, isFalse hs => isFalse (by simp [hs])

end

instance : DecidableEq Value := decideEq

end Value

/-- A payload together with its type. -/
structure TypedValue where
  type : SqlType
  value : Value
  deriving DecidableEq

/-- A payload of which nothing is known but the type. -/
def TypedValue.absent (type : SqlType) : TypedValue := ⟨type, .null⟩

namespace SqlType

mutual

/-- A payload has the shape of a type: no list for a scalar, null or a list of fitting items for an
array, and exactly one fitting item for each field of a struct. -/
def isCongruent : SqlType → Value → Bool
  | scalar _, .list _ => false
  | scalar _, _ => true
  | array _, .null => true
  | array none, .list items => items.isEmpty
  | array (some element), .list items => items.all fun item => element.isCongruent item
  | array _, _ => false
  | struct fields, .list items => areCongruent fields items
  | struct _, _ => false

/-- One fitting item for each field. -/
def areCongruent : List (Field SqlType) → List Value → Bool
  | [], [] => true
  | ⟨_, type⟩ :: fields, item :: items => type.isCongruent item && areCongruent fields items
  | _, _ => false

end

end SqlType

def TypedValue.isCongruent (typed : TypedValue) : Bool := typed.type.isCongruent typed.value

end ParamCodec
