/-
This file defines the types of parameters.
-/

import ParamCodec.Text.Basic

namespace ParamCodec

/-- The types that have no parts. -/
inductive ScalarKind where
  | bool
  | int64
  | float32
  | float64
  | timestamp
  | date
  | string
  | bytes
  | numeric
  | json
  deriving DecidableEq, Repr

namespace ScalarKind

def all : List ScalarKind :=
  [bool, int64, float32, float64, timestamp, date, string, bytes, numeric, json]

def name : ScalarKind → Text
  | bool => "BOOL".toList
  | int64 => "INT64".toList
  | float32 => "FLOAT32".toList
  | float64 => "FLOAT64".toList
  | timestamp => "TIMESTAMP".toList
  | date => "DATE".toList
  | string => "STRING".toList
  | bytes => "BYTES".toList
  | numeric => "NUMERIC".toList
  | json => "JSON".toList

/-- The kind that a keyword of any case names. -/
def ofKeyword? (word : Text) : Option ScalarKind :=
  all.find? fun kind => Text.sameWord word kind.name

end ScalarKind

/-- The codes that types have on the wire. -/
inductive TypeCode where
  | unspecified
  | scalar (kind : ScalarKind)
  | array
  | struct
  deriving DecidableEq, Repr

namespace TypeCode

def all : List TypeCode := unspecified :: array :: struct :: ScalarKind.all.map scalar

def name : TypeCode → Text
  | unspecified => "TYPE_CODE_UNSPECIFIED".toList
  | scalar kind => kind.name
  | array => "ARRAY".toList
  | struct => "STRUCT".toList

/-- The code with exactly this name. -/
def ofName? (name : Text) : Option TypeCode := all.find? fun code => code.name == name

end TypeCode

/-- A member of a struct type; a positional one has an empty name. -/
structure Field (α : Type) where
  name : Text
  type : α
  deriving DecidableEq, Repr

/-- The type of a parameter. Only an empty array literal has an array type without element type. -/
inductive SqlType where
  | scalar (kind : ScalarKind)
  | array (element : Option SqlType)
  | struct (fields : List (Field SqlType))

namespace SqlType

def code : SqlType → TypeCode
  | scalar kind => .scalar kind
  | array _ => .array
  | struct _ => .struct

def isScalar : SqlType → Bool
  | scalar _ => true
  | _ => false

/-- The element type of an array, if it is known. -/
def element? : SqlType → Option SqlType
  | array element => element
  | _ => none

/-- The members of a struct; every other type has none. -/
def fields : SqlType → List (Field SqlType)
  | struct fields => fields
  | _ => []

def fieldText (name type : Text) : Text := if name.isEmpty then type else name ++ ' ' :: type

mutual

/-- The type as SQL writes it. -/
def sql : SqlType → Text
  | scalar kind => kind.name
  | array none => "ARRAY<>".toList
  | array (some element) => "ARRAY<".toList ++ element.sql ++ ['>']
  | struct fields => "STRUCT<".toList ++ Text.commaSeparated (fieldTexts fields) ++ ['>']

def fieldTexts : List (Field SqlType) → List Text
  | [] => []
  | ⟨name, type⟩ :: rest => fieldText name type.sql :: fieldTexts rest

end

mutual

def decideEq (left right : SqlType) : Decidable (left = right) :=
  match left with
  | scalar kind => by
    cases right with
    | scalar other => exact decidable_of_iff (kind = other) (by simp)
    | _ => exact isFalse (by simp)
  | array none => by
    cases right with
    | array other => exact decidable_of_iff (none = other) (by simp)
    | _ => exact isFalse (by simp)
  | array (some element) => by
    cases right with
    | array other =>
      cases other with
      | none => exact isFalse (by simp)
      | some other =>
        have := decideEq element other
        exact decidable_of_iff (element = other) (by simp)
    | _ => exact isFalse (by simp)
  | struct fields => by
    cases right with
    | struct others =>
      have := decideEqFields fields others
      exact decidable_of_iff (fields = others) (by simp)
    | _ => exact isFalse (by simp)

def decideEqFields : (left right : List (Field SqlType)) → Decidable (left = right)
  | [], [] => isTrue rfl
  | [], _ :: _ => isFalse (by simp)
  | _ :: _, [] => isFalse (by simp)
  | ⟨name, type⟩ :: rest, ⟨otherName, other⟩ :: others =>
    match decEq name otherName, decideEq type other, decideEqFields rest others with
    | isTrue h, isTrue ht, isTrue hs => isTrue (by rw [h, ht, hs])
    | isFalse h, _, _ => isFalse (by simp [h])
    | _, isFalse ht, _ => isFalse (by simp [ht])
    | _, _, isFalse hs => isFalse (by simp [hs])

end

instance : DecidableEq SqlType := decideEq

end SqlType

end ParamCodec
