/-
This file gives types and typed values their JSON form and reads it back.

The JSON of a type is first read as a wire type, which may name any code and may leave parts out; a
wire type is then checked to be a type. An array stands for an object when it holds the members in
their order.
-/

import ParamCodec.Error.Basic

namespace ParamCodec

/-- A member of a struct on the wire. -/
structure WireField (α : Type) where
  name : Text
  type : Option α
  deriving DecidableEq, Repr

/-- A type on the wire: its code, and what is said of its elements and of its fields. -/
inductive WireType where
  | node (code : Text) (element : Option WireType) (fields : Option (List (WireField WireType)))

namespace WireType

mutual

/-- The JSON of a wire type; absent parts and empty names are left out. -/
def json : WireType → Json
  | node code element fields =>
    .object (("code".toList, .string code) :: elementMembers element ++ structMembers fields)

def elementMembers : Option WireType → List (Text × Json)
  | none => []
  | some element => [("arrayElementType".toList, element.json)]

def structMembers : Option (List (WireField WireType)) → List (Text × Json)
  | none => []
  | some fields =>
    [("structType".toList, .object [("fields".toList, .array (fieldsJson fields))])]

def fieldsJson : List (WireField WireType) → List Json
  | [] => []
  | ⟨name, none⟩ :: rest => .object (nameMembers name) :: fieldsJson rest
  | ⟨name, some type⟩ :: rest =>
    .object (nameMembers name ++ [("type".toList, type.json)]) :: fieldsJson rest

def nameMembers (name : Text) : List (Text × Json) :=
  if name.isEmpty then [] else [("name".toList, .string name)]

end

/-- The parts of a wire type that an object has named so far. -/
structure Parts where
  code : Option Text
  element : Option WireType
  fields : Option (List (WireField WireType))

def Parts.node? (parts : Parts) : Option WireType :=
  parts.code.map fun code => node code parts.element parts.fields

def text? : Json → Option Text
  | .string text => some text
  | _ => none

mutual

/-- The parts that the members of an object name; other members do not count. -/
def partsOf? : List (Text × Json) → Option Parts
  | [] => some ⟨none, none, none⟩
  | (key, value) :: rest =>
    match partsOf? rest with
    | none => none
    | some parts =>
      if key = "code".toList then (text? value).map fun code => { parts with code := some code }
      else if key = "arrayElementType".toList then
        (optional? value).map fun element => { parts with element := element }
      else if key = "structType".toList then
        (structOf? value).map fun fields => { parts with fields := fields }
      else some parts

/-- A wire type, or null where there is none. -/
def optional? : Json → Option (Option WireType)
  | .null => some none
  | .object members => ((partsOf? members).bind Parts.node?).map some
  | .array [code] => (text? code).map fun code => some (node code none none)
  | .array [code, element] =>
    match text? code, optional? element with
    | some code, some element => some (some (node code element none))
    | _, _ => none
  | .array [code, element, struct] =>
    match text? code, optional? element, structOf? struct with
    | some code, some element, some fields => some (some (node code element fields))
    | _, _, _ => none
  | _ => none

/-- The list of fields of a struct, which may be left out, or null where nothing is said of it. -/
def structOf? : Json → Option (Option (List (WireField WireType)))
  | .null => some none
  | .object members => (fieldListOf? members).map some
  | .array [] => some (some [])
  | .array [.array fields] => (fieldsOf? fields).map some
  | _ => none

def fieldListOf? : List (Text × Json) → Option (List (WireField WireType))
  | [] => some []
  | (key, value) :: rest =>
    if key = "fields".toList then
      match value with
      | .array fields => fieldsOf? fields
      | _ => none
    else fieldListOf? rest

def fieldsOf? : List Json → Option (List (WireField WireType))
  | [] => some []
  | field :: rest =>
    match fieldOf? field, fieldsOf? rest with
    | some field, some fields => some (field :: fields)
    | _, _ => none

/-- A field; the name and the type may be left out. -/
def fieldOf? : Json → Option (WireField WireType)
  | .object members => fieldPartsOf? members
  | .array [] => some ⟨[], none⟩
  | .array [name] => (text? name).map fun name => ⟨name, none⟩
  | .array [name, type] =>
    match text? name, optional? type with
    | some name, some type => some ⟨name, type⟩
    | _, _ => none
  | _ => none

def fieldPartsOf? : List (Text × Json) → Option (WireField WireType)
  | [] => some ⟨[], none⟩
  | (key, value) :: rest =>
    match fieldPartsOf? rest with
    | none => none
    | some field =>
      if key = "name".toList then (text? value).map fun name => { field with name := name }
      else if key = "type".toList then
        (optional? value).map fun type => { field with type := type }
      else some field

end

/-- The wire type of a JSON tree. -/
def ofJson? (json : Json) : Option WireType := (optional? json).join

end WireType

namespace SqlType

mutual

/-- The wire type of a type. -/
def wire : SqlType → WireType
  | scalar kind => .node kind.name none none
  | array none => .node "ARRAY".toList none none
  | array (some element) => .node "ARRAY".toList (some element.wire) none
  | struct fields => .node "STRUCT".toList none (some (wireFields fields))

def wireFields : List (Field SqlType) → List (WireField WireType)
  | [] => []
  | ⟨name, type⟩ :: rest => ⟨name, some type.wire⟩ :: wireFields rest

end

mutual

/-- The type of a wire type. Elements count only under the code of arrays and fields only under that
of structs; the codes have to be known and the fields have to have types. -/
def ofWire : WireType → Except Error SqlType
  | .node code element fields =>
    match TypeCode.ofName? code with
    | none => .error (.unknownTypeCode code)
    | some .unspecified => .error (.unknownTypeCode code)
    | some (.scalar kind) => .ok (.scalar kind)
    | some .array =>
      match element with
      | none => .ok (.array none)
      | some element => (ofWire element).map fun element => .array (some element)
    | some .struct =>
      match fields with
      | none => .ok (.struct [])
      | some fields => (ofWireFields 0 fields).map .struct

def ofWireFields (index : Nat) : List (WireField WireType) → Except Error (List (Field SqlType))
  | [] => .ok []
  | ⟨name, none⟩ :: _ => .error (.missingElementType (.wireField (TypeGap.label name index)))
  | ⟨name, some type⟩ :: rest => do
    let type ← ofWire type
    let fields ← ofWireFields (index + 1) rest
    return ⟨name, type⟩ :: fields

end

/-- The JSON of a type. -/
def json (type : SqlType) : Json := type.wire.json

end SqlType

/-- Why a JSON tree is not what it should be: its shape, or the type that it describes. -/
inductive WireFault where
  | shape
  | type (error : Error)
  deriving DecidableEq

namespace TypedValue

/-- The JSON of a typed value: the type and then the payload. -/
def json (typed : TypedValue) : Json :=
  .object [("type".toList, typed.type.json), ("value".toList, typed.value.json)]

/-- A type and a payload; the type is looked at first. -/
def ofParts (type value : Json) : Except WireFault TypedValue :=
  match WireType.ofJson? type with
  | none => .error .shape
  | some wire =>
    match SqlType.ofWire wire with
    | .error error => .error (.type error)
    | .ok type =>
      match Value.ofJson? value with
      | none => .error .shape
      | some value => .ok ⟨type, value⟩

/-- The typed value of a JSON tree. Without a payload the type is still looked at. -/
def ofJson (json : Json) : Except WireFault TypedValue :=
  match json with
  | .object members =>
    match Json.member? "type".toList members with
    | none => .error .shape
    | some type => ofParts type ((Json.member? "value".toList members).getD (.object []))
  | .array [type] => ofParts type (.object [])
  | .array [type, value] => ofParts type value
  | .array (type :: value :: _ :: _) => (ofParts type value).bind fun _ => .error .shape
  | _ => .error .shape

/-- All typed values of some JSON trees, up to the first fault. -/
def allOfJson : List Json → Except WireFault (List TypedValue)
  | [] => .ok []
  | json :: rest => do
    let typed ← ofJson json
    let more ← allOfJson rest
    return typed :: more

/-- The typed values of a JSON tree: one, or a list of them. -/
def cellsOfJson : Json → Except WireFault (List TypedValue)
  | .array items => allOfJson items
  | json => (ofJson json).map fun typed => [typed]

end TypedValue

end ParamCodec
