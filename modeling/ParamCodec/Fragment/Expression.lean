/-
This file defines the trees of literal fragments and how they are written.

Paths, query parameters and parenthesized expressions have trees of their own, so that evaluation
can refuse them by name.
-/

import ParamCodec.Fragment.Literal
import ParamCodec.Fragment.TypeFragment

namespace ParamCodec

/-- A member of a struct literal that names no types, with an optional alias. -/
structure Argument (α : Type) where
  expression : α
  label : Option Identifier
  deriving DecidableEq, Repr

/-- A literal expression. A typed struct may have more or fewer values than fields. -/
inductive Expression where
  | literal (value : Literal)
  | array (element : Option TypeFragment) (items : List Expression)
  | typeless (arguments : List (Argument Expression))
  | tuple (values : List Expression)
  | typed (fields : List (FieldFragment TypeFragment)) (values : List Expression)
  | parenthesized (inner : Expression)
  | path (segments : List Identifier)
  | parameter (name : Identifier)

namespace Expression

/-- The name of the kind of expression, as errors show it. -/
def kind : Expression → Text
  | literal value => value.kind
  | array .. => "array".toList
  | typeless _ => "typeless struct".toList
  | tuple _ => "tuple struct".toList
  | typed .. => "typed struct".toList
  | parenthesized _ => "parenthesized expression".toList
  | path _ => "identifier".toList
  | parameter _ => "query parameter".toList

/-- The annotation in front of the items of an array. -/
def annotationText : Option TypeFragment → Text
  | none => []
  | some element => "ARRAY<".toList ++ element.sql ++ ['>']

def labelText : Option Identifier → Text
  | none => []
  | some label => " AS ".toList ++ label.sql

def pathText (segments : List Identifier) : Text :=
  List.intercalate ['.'] (segments.map Identifier.sql)

mutual

/-- The text of an expression. -/
def sql : Expression → Text
  | literal value => value.sql
  | array element items =>
    annotationText element ++ '[' :: Text.commaSeparated (texts items) ++ [']']
  | typeless arguments =>
    "STRUCT(".toList ++ Text.commaSeparated (argumentTexts arguments) ++ [')']
  | tuple values => '(' :: Text.commaSeparated (texts values) ++ [')']
  | typed fields values =>
    "STRUCT<".toList ++ Text.commaSeparated (TypeFragment.fieldTexts fields) ++ ">(".toList ++
      Text.commaSeparated (texts values) ++ [')']
  | parenthesized inner => '(' :: inner.sql ++ [')']
  | path segments => pathText segments
  | parameter name => '@' :: name.sql

def texts : List Expression → List Text
  | [] => []
  | expression :: rest => expression.sql :: texts rest

def argumentTexts : List (Argument Expression) → List Text
  | [] => []
  | ⟨expression, label⟩ :: rest => (expression.sql ++ labelText label) :: argumentTexts rest

end

mutual

def decideEq (left right : Expression) : Decidable (left = right) :=
  match left with
  | literal value => by
    cases right with
    | literal other => exact decidable_of_iff (value = other) (by simp)
    | _ => exact isFalse (by simp)
  | array element items => by
    cases right with
    | array otherElement others =>
      have := decideEqList items others
      exact decidable_of_iff (element = otherElement ∧ items = others) (by simp)
    | _ => exact isFalse (by simp)
  | typeless arguments => by
    cases right with
    | typeless others =>
      have := decideEqArguments arguments others
      exact decidable_of_iff (arguments = others) (by simp)
    | _ => exact isFalse (by simp)
  | tuple values => by
    cases right with
    | tuple others =>
      have := decideEqList values others
      exact decidable_of_iff (values = others) (by simp)
    | _ => exact isFalse (by simp)
  | typed fields values => by
    cases right with
    | typed otherFields others =>
      have := decideEqList values others
      exact decidable_of_iff (fields = otherFields ∧ values = others) (by simp)
    | _ => exact isFalse (by simp)
  | parenthesized inner => by
    cases right with
    | parenthesized other =>
      have := decideEq inner other
      exact decidable_of_iff (inner = other) (by simp)
    | _ => exact isFalse (by simp)
  | path segments => by
    cases right with
    | path others => exact decidable_of_iff (segments = others) (by simp)
    | _ => exact isFalse (by simp)
  | parameter name => by
    cases right with
    | parameter other => exact decidable_of_iff (name = other) (by simp)
    | _ => exact isFalse (by simp)

def decideEqList : (left right : List Expression) → Decidable (left = right)
  | [], [] => isTrue rfl
  | [], _ :: _ => isFalse (by simp)
  | _ :: _, [] => isFalse (by simp)
  | expression :: rest, other :: others =>
    match decideEq expression other, decideEqList rest others with
    | isTrue h, isTrue hs => isTrue (by rw [h, hs])
    | isFalse h, _ => isFalse (by simp [h])
    | _, isFalse hs => isFalse (by simp [hs])

def decideEqArguments : (left right : List (Argument Expression)) → Decidable (left = right)
  | [], [] => isTrue rfl
  | [], _ :: _ => isFalse (by simp)
  | _ :: _, [] => isFalse (by simp)
  | ⟨expression, label⟩ :: rest, ⟨other, otherLabel⟩ :: others =>
    match decEq label otherLabel, decideEq expression other, decideEqArguments rest others with
    | isTrue h, isTrue ht, isTrue hs => isTrue (by rw [h, ht, hs])
    | isFalse h, _, _ => isFalse (by simp [h])
    | _, isFalse ht, _ => isFalse (by simp [ht])
    | _, _, isFalse hs => isFalse (by simp [hs])

end

instance : DecidableEq Expression := decideEq

end Expression

end ParamCodec
