/-
This file defines JSON trees.
-/

import ParamCodec.Decimal.Binary
import ParamCodec.Text.Basic

namespace ParamCodec

/-- Integers of 64 bits, with or without sign, stay apart from the other numbers. The members of an
object have an order. -/
inductive Json where
  | null
  | bool (value : Bool)
  | integer (value : Int)
  | float (value : Binary64)
  | string (text : Text)
  | array (items : List Json)
  | object (members : List (Text × Json))

namespace Json

/-- Code points in order decide which of two keys comes first. -/
def keyBefore : (left right : Text) → Bool
  | _, [] => false
  | [], _ :: _ => true
  | first :: left, second :: right =>
    if first = second then keyBefore left right else first.toNat < second.toNat

/-- A member put into members in key order; it replaces the value of its key. -/
def insertMember (key : Text) (value : Json) : List (Text × Json) → List (Text × Json)
  | [] => [(key, value)]
  | (other, old) :: rest =>
    if key = other then (key, value) :: rest
    else if keyBefore key other then (key, value) :: (other, old) :: rest
    else (other, old) :: insertMember key value rest

mutual

/-- The tree with the members of every object in key order. -/
def sorted : Json → Json
  | array items => array (sortedItems items)
  | object members => object (sortedMembers members)
  | scalar => scalar

def sortedItems : List Json → List Json
  | [] => []
  | item :: rest => item.sorted :: sortedItems rest

def sortedMembers : List (Text × Json) → List (Text × Json)
  | [] => []
  | (key, value) :: rest => insertMember key value.sorted (sortedMembers rest)

end

/-- The value of a key. -/
def member? (key : Text) : List (Text × Json) → Option Json
  | [] => none
  | (other, value) :: rest => if key = other then some value else member? key rest

end Json

end ParamCodec
