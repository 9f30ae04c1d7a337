import ParamCodec.Grammar.Fragment
import ParamCodec.Binding.TypeMeaning
import ParamCodec.Proofs.Grammar.Whole
import ParamCodec.Proofs.Typed.Shape

namespace ParamCodec

open Grammar

namespace TypeFragment

/-- The field has a type, and this resolves to the type of the other field. -/
def FieldMeans (field : FieldFragment TypeFragment) (resolved : Field SqlType) : Prop :=
  resolved.name = nameText field.name ∧
    ∃ fragment, field.type = some fragment ∧ fragment.resolve = .ok resolved.type

/-- Fields resolve one by one. -/
theorem resolveFields_eq_ok_iff {index : Nat} {fields : List (FieldFragment TypeFragment)}
    {resolved : List (Field SqlType)} :
    resolveFields index fields = .ok resolved ↔ List.Forall₂ FieldMeans fields resolved := by
  induction fields generalizing index resolved with
  | nil => cases resolved <;> simp [resolveFields]
  | cons field fields ih =>
      obtain ⟨name, type⟩ := field
      cases type with
      | none => cases resolved <;> simp [resolveFields, FieldMeans]
      | some fragment =>
          simp only [resolveFields, bind_eq_ok_iff, pure_eq_ok, ih]
          constructor
          · rintro ⟨type, first, others, rest, same⟩
            cases same
            exact .cons ⟨rfl, fragment, rfl, first⟩ rest
          · rintro (_ | ⟨⟨named, inner, same, first⟩, rest⟩)
            cases same
            exact ⟨_, first, _, rest, by rw [← named]⟩

/-- Only an array with an element type resolves to an array. -/
theorem array_of_resolve {fragment : TypeFragment} {element : Option SqlType}
    (resolved : fragment.resolve = .ok (.array element)) :
    ∃ inner type, fragment = .array (some inner) ∧ element = some type ∧ inner.resolve = .ok type := by
  match fragment with
  | .named name length =>
      rw [resolve] at resolved
      split at resolved <;> cases resolved
  | .array none => cases resolved
  | .array (some inner) =>
      rw [resolve] at resolved
      obtain ⟨type, found, same⟩ := bind_eq_ok_iff.mp resolved
      cases same
      exact ⟨inner, type, rfl, rfl, found⟩
  | .struct fields =>
      rw [resolve] at resolved
      obtain ⟨_, _, same⟩ := bind_eq_ok_iff.mp resolved
      cases same

/-- Only a struct resolves to a struct, with the types of its fields. -/
theorem struct_of_resolve {fragment : TypeFragment} {fields : List (Field SqlType)}
    (resolved : fragment.resolve = .ok (.struct fields)) :
    ∃ members, fragment = .struct members ∧ List.Forall₂ FieldMeans members fields := by
  match fragment with
  | .named name length =>
      rw [resolve] at resolved
      split at resolved <;> cases resolved
  | .array none => cases resolved
  | .array (some inner) =>
      rw [resolve] at resolved
      obtain ⟨_, _, same⟩ := bind_eq_ok_iff.mp resolved
      cases same
  | .struct members =>
      rw [resolve] at resolved
      obtain ⟨found, means, same⟩ := bind_eq_ok_iff.mp resolved
      cases same
      exact ⟨members, rfl, resolveFields_eq_ok_iff.mp means⟩

/-- A type that may be missing resolves to none, or to what it resolves to. -/
theorem resolveOptional_eq_ok_iff {fragment : Option TypeFragment} {type : Option SqlType} :
    resolveOptional fragment = .ok type ↔
      (fragment = none ∧ type = none) ∨
        ∃ written found, fragment = some written ∧ type = some found ∧ written.resolve = .ok found := by
  cases fragment with
  | none => simp [resolveOptional, eq_comm]
  | some written =>
      cases resolved : written.resolve <;> simp [resolveOptional, resolved, Except.map, eq_comm]

end TypeFragment

/-- A resolved fragment is its type with the placeholder of the type. -/
theorem resolveType_eq_ok_iff {fragment : TypeFragment} {typed : TypedValue} :
    resolveType fragment = .ok typed ↔
      fragment.resolve = .ok typed.type ∧ typed.value = typed.type.placeholder := by
  obtain ⟨type, value⟩ := typed
  cases resolved : fragment.resolve with
  | error error => simp [resolveType, resolved, Except.map]
  | ok found =>
      simp only [resolveType, resolved, Except.map, Except.ok.injEq, TypedValue.mk.injEq]
      constructor
      · rintro ⟨rfl, rfl⟩
        exact ⟨rfl, rfl⟩
      · rintro ⟨rfl, rfl⟩
        exact ⟨rfl, rfl⟩

namespace SqlType

def isStruct : SqlType → Bool
  | struct _ => true
  | _ => false

/-- A struct that has a struct among its own fields. -/
def nestsStruct (type : SqlType) : Bool := type.fields.any fun field => field.type.isStruct

/-- Null is a payload of every type but the structs. -/
theorem isCongruent_null (type : SqlType) : type.isCongruent .null = !type.isStruct := by
  cases type <;> simp [isCongruent, isStruct]

/-- Null fits every field that is no struct itself. -/
theorem areCongruent_nulls (fields : List (Field SqlType)) :
    areCongruent fields (fields.map fun _ => .null) =
      !fields.any fun field => field.type.isStruct := by
  induction fields with
  | nil => rfl
  | cons field fields ih =>
      rw [List.map_cons, areCongruent, ih, isCongruent_null, List.any_cons, Bool.not_or]

/-- A placeholder has the shape of its type as long as no field of it is a struct. -/
theorem isCongruent_placeholder (type : SqlType) :
    type.isCongruent type.placeholder = !type.nestsStruct := by
  cases type with
  | scalar kind => rfl
  | array element => exact isCongruent_null _
  | struct fields =>
      rw [placeholder, isCongruent]
      exact areCongruent_nulls fields

end SqlType

/-- What a type fragment resolves to has the shape of its type unless a struct has a struct as field:
the placeholder holds a null for each field, and null is no payload of a struct. -/
theorem isCongruent_resolveType_iff (code : Text) (typed : TypedValue)
    (resolved : parseType code >>= resolveType = .ok typed) :
    typed.isCongruent = true ↔ typed.type.nestsStruct = false := by
  obtain ⟨fragment, _, means⟩ := bind_eq_ok_iff.mp resolved
  obtain ⟨_, same⟩ := resolveType_eq_ok_iff.mp means
  rw [TypedValue.isCongruent, same, SqlType.isCongruent_placeholder, Bool.not_eq_true']

/-- A struct below an array does not count. -/
theorem isCongruent_resolveType_structBelowArray :
    parseType "STRUCT<x ARRAY<STRUCT<y STRUCT<z INT64>>>>".toList >>= resolveType =
        .ok ⟨.struct [⟨"x".toList, .array (some (.struct [⟨"y".toList,
          .struct [⟨"z".toList, .scalar .int64⟩]⟩]))⟩], .list [.null]⟩ ∧
      (TypedValue.isCongruent ⟨.struct [⟨"x".toList, .array (some (.struct [⟨"y".toList,
          .struct [⟨"z".toList, .scalar .int64⟩]⟩]))⟩], .list [.null]⟩ = true ↔
        SqlType.nestsStruct (.struct [⟨"x".toList, .array (some (.struct [⟨"y".toList,
          .struct [⟨"z".toList, .scalar .int64⟩]⟩]))⟩]) = false) := by
  have resolved : parseType "STRUCT<x ARRAY<STRUCT<y STRUCT<z INT64>>>>".toList >>= resolveType =
      .ok ⟨.struct [⟨"x".toList, .array (some (.struct [⟨"y".toList,
        .struct [⟨"z".toList, .scalar .int64⟩]⟩]))⟩], .list [.null]⟩ :=
    eq_ok_of_toOption (by decide +kernel)
  exact ⟨resolved, isCongruent_resolveType_iff _ _ resolved⟩

/-- A struct as field of a struct gets a null, which is not its shape. -/
theorem resolveType_nestedStruct_not_congruent :
    parseType "STRUCT<x STRUCT<y INT64>>".toList >>= resolveType =
        .ok ⟨.struct [⟨"x".toList, .struct [⟨"y".toList, .scalar .int64⟩]⟩], .list [.null]⟩ ∧
      TypedValue.isCongruent
        ⟨.struct [⟨"x".toList, .struct [⟨"y".toList, .scalar .int64⟩]⟩], .list [.null]⟩ = false :=
  ⟨eq_ok_of_toOption (by decide +kernel), by decide⟩

end ParamCodec
