/-
This file resolves type fragments to types.
-/

import ParamCodec.Error.Basic

namespace ParamCodec

namespace TypeFragment

/-- The text of a name that may be missing. -/
def nameText (name : Option Identifier) : Text := (name.map Identifier.name).getD []

mutual

/-- The type that a fragment means. Lengths do not count; every array has to have an element type
and every field a type. -/
def resolve : TypeFragment → Except Error SqlType
  | named name _ =>
    match ScalarKind.ofKeyword? name.name with
    | some kind => .ok (.scalar kind)
    | none => .error (.unknownTypeName name.name)
  | array none => .error (.missingElementType .element)
  | array (some element) => do
    let element ← element.resolve
    return .array (some element)
  | struct fields => do
    let fields ← resolveFields 0 fields
    return .struct fields

/-- The fields of a struct type, counted from an index. -/
def resolveFields (index : Nat) :
    List (FieldFragment TypeFragment) → Except Error (List (Field SqlType))
  | [] => .ok []
  | ⟨name, none⟩ :: _ =>
    .error (.missingElementType (.field (TypeGap.label (nameText name) index)))
  | ⟨name, some type⟩ :: rest => do
    let type ← type.resolve
    let fields ← resolveFields (index + 1) rest
    return ⟨nameText name, type⟩ :: fields

end

/-- The type that a fragment declares, if there is a fragment. -/
def resolveOptional : Option TypeFragment → Except Error (Option SqlType)
  | none => .ok none
  | some fragment => fragment.resolve.map some

end TypeFragment

/-- The payload that stands for any value of a type: null, or one null for each field. -/
def SqlType.placeholder : SqlType → Value
  | struct fields => .list (fields.map fun _ => .null)
  | _ => .null

/-- The type that a fragment means, with a payload that stands for any value. -/
def resolveType (fragment : TypeFragment) : Except Error TypedValue :=
  fragment.resolve.map fun type => ⟨type, type.placeholder⟩

end ParamCodec
