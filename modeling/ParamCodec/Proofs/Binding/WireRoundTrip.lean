import ParamCodec.Display.Cell
import ParamCodec.Proofs.Binding.Finite
import ParamCodec.Proofs.Binding.Permission
import ParamCodec.Proofs.Typed.Wire

namespace ParamCodec

/-- What holds of the value that is put and of the earlier ones holds of all of them. -/
theorem Entries.forall_put {α : Type} {motive : α → Prop} {name : Text} {value : α}
    {entries : Entries α} (here : motive value) (earlier : ∀ entry ∈ entries, motive entry.2) :
    ∀ entry ∈ put name value entries, motive entry.2 := by
  induction entries with
  | nil => simpa [put] using here
  | cons entry entries ih =>
      rw [List.forall_mem_cons] at earlier
      rw [put]
      split_ifs
      · exact List.forall_mem_cons.mpr ⟨here, earlier.2⟩
      · exact List.forall_mem_cons.mpr ⟨earlier.1, ih earlier.2⟩

/-- The payload that stands for any value of a type has no numbers. -/
theorem SqlType.isFinite_placeholder (type : SqlType) : type.placeholder.IsFinite := by
  cases type with
  | struct fields =>
      apply Value.isFinite_list_iff.mpr
      rw [List.forall_mem_map]
      exact fun _ _ => nofun
  | scalar _ => exact nofun
  | array _ => exact nofun

namespace Binding

/-- What holds of all that single fragments give holds of all parameters. -/
theorem forall_addAll {motive : TypedValue → Prop} {permitTypes : Bool}
    (each : ∀ code typed, (parameter permitTypes code).result = .ok typed → motive typed)
    {entries : List (Text × Text)} {earlier parameters : Parameters}
    (start : ∀ entry ∈ earlier, motive entry.2)
    (built : (addAll permitTypes earlier entries).result = .ok parameters) :
    ∀ entry ∈ parameters, motive entry.2 := by
  induction entries generalizing earlier with
  | nil =>
      cases built
      exact start
  | cons entry entries ih =>
      rw [addAll] at built
      split at built
      · next typed first => exact ih (Entries.forall_put (each _ _ first) start) built
      · cases built

/-- A bound literal has finite numbers only. -/
theorem isFinite_literal {code : Text} {typed : TypedValue}
    (result : (literal code).result = .ok typed) : typed.value.IsFinite := by
  obtain ⟨expression, read, evaluated⟩ := literal_result_eq_ok result
  exact Expression.isFinite_evaluate (lexical_of_parseExpression read) evaluated

/-- A bound parameter has finite numbers only. -/
theorem isFinite_parameter {permitTypes : Bool} {code : Text} {typed : TypedValue}
    (result : (parameter permitTypes code).result = .ok typed) : typed.value.IsFinite := by
  unfold parameter at result
  split_ifs at result
  · split at result
    · rw [concluded_result] at result
      obtain ⟨_, placed⟩ := resolveType_eq_ok_iff.mp result
      rw [placed]
      exact SqlType.isFinite_placeholder _
    · exact isFinite_literal result
  · exact isFinite_literal result

/-- Parameters have finite numbers only. They are read back from their JSON, one by one and from the
array of all of them, and so are shown as before. -/
theorem parameters_readBack (permitTypes : Bool) (entries : List (Text × Text))
    (parameters : Parameters)
    (built : (Binding.parameters permitTypes entries).result = .ok parameters) :
    (∀ entry ∈ parameters, ∀ number ∈ entry.2.value.numbers, number.isFinite = true) ∧
    (∀ entry ∈ parameters, ∀ tree, tree.IsFormOf entry.2.json →
      TypedValue.ofJson tree = .ok entry.2 ∧ TypedValue.cellsOfJson tree = .ok [entry.2] ∧
        (TypedValue.cellsOfJson tree).map (·.map Display.typed) = .ok [Display.typed entry.2]) ∧
    (∀ tree, tree.IsFormOf (.array (parameters.map (·.2.json))) →
      TypedValue.cellsOfJson tree = .ok (parameters.map (·.2)) ∧
        (TypedValue.cellsOfJson tree).map (·.map Display.typed) =
          .ok (parameters.map fun entry => Display.typed entry.2)) := by
  have finite : ∀ entry ∈ parameters, entry.2.value.IsFinite :=
    forall_addAll (fun _ _ => isFinite_parameter) (by simp) built
  refine ⟨finite, ?_, ?_⟩
  · intro entry member tree form
    have cell := TypedValue.cellsOfJson_of_isFormOf (finite entry member) form
    refine ⟨TypedValue.ofJson_of_isFormOf (finite entry member) form, cell, ?_⟩
    rw [cell]
    rfl
  · intro tree form
    have all : ∀ typed ∈ parameters.map (·.2), typed.value.IsFinite := by
      rw [List.forall_mem_map]
      exact finite
    have array : parameters.map (·.2.json) = (parameters.map (·.2)).map TypedValue.json := by
      rw [List.map_map]
      rfl
    rw [array] at form
    have cells := TypedValue.cellsOfJson_array all form
    refine ⟨cells, ?_⟩
    rw [cells]
    exact congrArg Except.ok List.map_map

/-- Two numbers in an array and a type with nested parts, in the key order of a text. -/
theorem parameters_readBack_nested :
    (Binding.parameters true [("a".toList, "[1.5, -.5]".toList),
        ("t".toList, "STRUCT<x ARRAY<INT64>, DATE>".toList)]).result =
      .ok [("a".toList, ⟨.array (some (.scalar .float64)),
          .list [.number ⟨0x3FF8000000000000⟩, .number ⟨0xBFE0000000000000⟩]⟩),
        ("t".toList, ⟨.struct [⟨"x".toList, .array (some (.scalar .int64))⟩, ⟨[], .scalar .date⟩],
          .list [.null, .null]⟩)] ∧
    TypedValue.cellsOfJson (.array [.object
        [("type".toList, .object
          [("arrayElementType".toList, .object [("code".toList, .string "FLOAT64".toList)]),
            ("code".toList, .string "ARRAY".toList)]),
          ("value".toList, .array [.float ⟨0x3FF8000000000000⟩, .float ⟨0xBFE0000000000000⟩])],
        .object
        [("type".toList, .object [("code".toList, .string "STRUCT".toList),
          ("structType".toList, .object [("fields".toList, .array
            [.object [("name".toList, .string "x".toList), ("type".toList, .object
              [("arrayElementType".toList, .object [("code".toList, .string "INT64".toList)]),
                ("code".toList, .string "ARRAY".toList)])],
              .object [("type".toList, .object [("code".toList, .string "DATE".toList)])]])])]),
          ("value".toList, .array [.null, .null])]]) =
      .ok [⟨.array (some (.scalar .float64)),
          .list [.number ⟨0x3FF8000000000000⟩, .number ⟨0xBFE0000000000000⟩]⟩,
        ⟨.struct [⟨"x".toList, .array (some (.scalar .int64))⟩, ⟨[], .scalar .date⟩],
          .list [.null, .null]⟩] := by
  have built : (Binding.parameters true [("a".toList, "[1.5, -.5]".toList),
        ("t".toList, "STRUCT<x ARRAY<INT64>, DATE>".toList)]).result =
      .ok [("a".toList, ⟨.array (some (.scalar .float64)),
          .list [.number ⟨0x3FF8000000000000⟩, .number ⟨0xBFE0000000000000⟩]⟩),
        ("t".toList, ⟨.struct [⟨"x".toList, .array (some (.scalar .int64))⟩, ⟨[], .scalar .date⟩],
          .list [.null, .null]⟩)] :=
    Grammar.eq_ok_of_toOption (by decide +kernel)
  exact ⟨built, ((parameters_readBack _ _ _ built).2.2 _ (.inr rfl)).1⟩

end Binding

end ParamCodec
