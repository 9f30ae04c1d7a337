/-
This file defines the trees of type fragments and how they are written.
-/

import ParamCodec.Fragment.Identifier
import ParamCodec.Text.Digits

namespace ParamCodec

/-- The length that may follow the name of a type. -/
inductive TypeLength where
  | maximum
  | fixed (count : Nat)
  deriving DecidableEq, Repr

def TypeLength.sql : TypeLength → Text
  | maximum => "MAX".toList
  | fixed count => Text.decimal count

/-- A member of a struct type; the name and the type may each be missing. -/
structure FieldFragment (α : Type) where
  name : Option Identifier
  type : Option α
  deriving DecidableEq, Repr

/-- A type as it is written. An array may lack its element type. -/
inductive TypeFragment where
  | named (name : Identifier) (length : Option TypeLength)
  | array (element : Option TypeFragment)
  | struct (fields : List (FieldFragment TypeFragment))

namespace TypeFragment

/-- A name and a type with a space between them, as far as they are there. -/
def fieldText : Option Identifier → Option Text → Text
  | some name, some type => name.sql ++ ' ' :: type
  | some name, none => name.sql
  | none, some type => type
  | none, none => []

def namedText (name : Identifier) : Option TypeLength → Text
  | none => name.sql
  | some length => name.sql ++ '(' :: length.sql ++ [')']

mutual

/-- The text of a type. -/
def sql : TypeFragment → Text
  | named name length => namedText name length
  | array none => "ARRAY".toList
  | array (some element) => "ARRAY<".toList ++ element.sql ++ ['>']
  | struct fields => "STRUCT<".toList ++ Text.commaSeparated (fieldTexts fields) ++ ['>']

/-- The texts of the members of a struct type. -/
def fieldTexts : List (FieldFragment TypeFragment) → List Text
  | [] => []
  | ⟨name, none⟩ :: rest => fieldText name none :: fieldTexts rest
  | ⟨name, some type⟩ :: rest => fieldText name (some type.sql) :: fieldTexts rest

end

mutual

def decideEq : (left right : TypeFragment) → Decidable (left = right)
  | named name length, named otherName otherLength =>
    if h : name = otherName ∧ length = otherLength then isTrue (by rw [h.1, h.2])
    else isFalse (by simpa using h)
  | array none, array none => isTrue rfl
  | array (some element), array (some other) =>
    match decideEq element other with
    | isTrue h => isTrue (by rw [h])
    | isFalse h => isFalse (by simpa using h)
  | struct fields, struct others =>
    match decideEqFields fields others with
    | isTrue h => isTrue (by rw [h])
    | isFalse h => isFalse (by simpa using h)
  | named .., array _ => isFalse (by simp)
  | named .., struct _ => isFalse (by simp)
  | array _, named .. => isFalse (by simp)
  | array _, struct _ => isFalse (by simp)
  | struct _, named .. => isFalse (by simp)
  | struct _, array _ => isFalse (by simp)
  | array none, array (some _) => isFalse (by simp)
  | array (some _), array none => isFalse (by simp)

def decideEqFields :
    (left right : List (FieldFragment TypeFragment)) → Decidable (left = right)
  | [], [] => isTrue rfl
  | [], _ :: _ => isFalse (by simp)
  | _ :: _, [] => isFalse (by simp)
  | ⟨name, none⟩ :: rest, ⟨otherName, none⟩ :: others =>
    match decEq name otherName, decideEqFields rest others with
    | isTrue h, isTrue hs => isTrue (by rw [h, hs])
    | isFalse h, _ => isFalse (by simp [h])
    | _, isFalse hs => isFalse (by simp [hs])
  | ⟨name, some type⟩ :: rest, ⟨otherName, some other⟩ :: others =>
    match decEq name otherName, decideEq type other, decideEqFields rest others with
    | isTrue h, isTrue ht, isTrue hs => isTrue (by rw [h, ht, hs])
    | isFalse h, _, _ => isFalse (by simp [h])
    | _, isFalse ht, _ => isFalse (by simp [ht])
    | _, _, isFalse hs => isFalse (by simp [hs])
  | ⟨_, none⟩ :: _, ⟨_, some _⟩ :: _ => isFalse (by simp)
  | ⟨_, some _⟩ :: _, ⟨_, none⟩ :: _ => isFalse (by simp)

end

instance : DecidableEq TypeFragment := decideEq

end TypeFragment

end ParamCodec
