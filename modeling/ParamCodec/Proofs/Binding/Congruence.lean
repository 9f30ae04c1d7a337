import ParamCodec.Proofs.Binding.Evaluation

namespace ParamCodec

open Grammar

/-- The type that the items of an array should have: that of its annotation, or else that of its first
item. -/
def Expression.elementType? (element : Option TypeFragment) (items : List Expression) :
    Option SqlType :=
  match element with
  | some fragment => fragment.resolve.toOption
  | none => items.head?.bind fun first => first.evaluate.toOption.map (·.type)

/-- The types that meet at an expression fit: those of the items of an array the element type, and
those of the values of a struct the declared types of their fields. -/
def Expression.TypesFit : Expression → Prop
  | array element items =>
    ∀ expected ∈ elementType? element items, ∀ item ∈ items,
      ∀ found ∈ item.evaluate.toOption, found.type.fits expected = true
  | typed fields values =>
    ∀ pair ∈ fields.zip values, ∀ fragment ∈ pair.1.type, ∀ declared ∈ fragment.resolve.toOption,
      ∀ found ∈ pair.2.evaluate.toOption, found.type.fits declared = true
  | _ => True

instance : DecidablePred Expression.TypesFit
  | .array element items => inferInstanceAs (Decidable (∀ expected ∈ Expression.elementType? element items,
      ∀ item ∈ items, ∀ found ∈ item.evaluate.toOption, found.type.fits expected = true))
  | .typed fields values => inferInstanceAs (Decidable (∀ pair ∈ fields.zip values,
      ∀ fragment ∈ pair.1.type, ∀ declared ∈ fragment.resolve.toOption,
      ∀ found ∈ pair.2.evaluate.toOption, found.type.fits declared = true))
  | .literal _ | .typeless _ | .tuple _ | .parenthesized _ | .path _ | .parameter _ => isTrue trivial

/-- A result is the value that is left when errors are forgotten. -/
theorem mem_toOption {ε α : Type} {result : Except ε α} {value : α} (succeeds : result = .ok value) :
    value ∈ result.toOption := by
  rw [succeeds]
  rfl

/-- A scalar literal has a scalar type and no list for its payload. -/
theorem Literal.isCongruent_result {value : Literal} {result : TypedValue}
    (evaluated : value.evaluate = .ok result) : result.isCongruent = true := by
  unfold evaluate at evaluated
  split at evaluated
  case h_3 | h_4 =>
    repeat' split at evaluated
    all_goals cases evaluated
    all_goals rfl
  all_goals
    cases evaluated
    rfl

/-- Members whose payloads fit the types of their fields make up a struct that fits. -/
theorem Member.isCongruent_assemble {members : List Member}
    (shaped : ∀ member ∈ members, member.field.type.isCongruent member.typed.value = true) :
    (assemble members).isCongruent = true := by
  apply SqlType.isCongruent_struct_iff.mpr
  refine ⟨_, rfl, ?_⟩
  rw [List.forall₂_map_left_iff, List.forall₂_map_right_iff, List.forall₂_same]
  exact shaped

namespace Expression

/-- The element type that evaluation gives an array is the one that its items should have. -/
theorem elementType?_eq {element : Option TypeFragment} {items : List Expression}
    {annotated : Option SqlType} {values : List TypedValue}
    (resolved : TypeFragment.resolveOptional element = .ok annotated)
    (evaluated : List.Forall₂ (fun item value => item.evaluate = .ok value) items values) :
    elementType? element items = (annotated <|> values.head?.map (·.type)) := by
  rcases TypeFragment.resolveOptional_eq_ok_iff.mp resolved with
    ⟨rfl, rfl⟩ | ⟨written, found, rfl, rfl, means⟩
  · cases evaluated with
    | nil => rfl
    | cons first _ => simp [elementType?, first, Except.toOption]
  · simp [elementType?, means, Except.toOption]

/-- The items of an array have the shape of its element type when their own types fit it. -/
theorem isCongruent_array {element : Option TypeFragment} {items : List Expression}
    {result : TypedValue} (evaluated : (array element items).evaluate = .ok result)
    (fit : (array element items).TypesFit)
    (shaped : ∀ item ∈ items, ∀ found, item.evaluate = .ok found → found.isCongruent = true) :
    result.isCongruent = true := by
  obtain ⟨annotated, resolved, values, each, rfl⟩ := evaluate_array_eq_ok_iff.mp evaluated
  have expects := elementType?_eq resolved each
  refine SqlType.isCongruent_array_iff.mpr (.inr ⟨_, rfl, ?_⟩)
  rw [List.forall_mem_map]
  intro value member
  obtain ⟨first, others, rfl⟩ := List.exists_cons_of_ne_nil (List.ne_nil_of_mem member)
  obtain ⟨expected, known⟩ :
      ∃ expected, (annotated <|> (first :: others).head?.map (·.type)) = some expected := by
    cases annotated <;> simp
  have suits : ∀ found ∈ first :: others, expected.isCongruent found.value = true := by
    refine forall_mem_of_forall₂ each fun item inside found means => ?_
    have fits := fit expected (expects.trans known) item inside found (mem_toOption means)
    exact SqlType.isCongruent_of_fits fits (shaped item inside found means)
  exact ⟨expected, known, suits value member⟩

/-- The values of a struct have the shapes of its fields when their types fit the declared types. -/
theorem isCongruent_typed {fields : List (FieldFragment TypeFragment)} {values : List Expression}
    {result : TypedValue} (evaluated : (typed fields values).evaluate = .ok result)
    (fit : (typed fields values).TypesFit)
    (shaped : ∀ value ∈ values, ∀ found, value.evaluate = .ok found → found.isCongruent = true) :
    result.isCongruent = true := by
  obtain ⟨results, each, members, declared, rfl⟩ := evaluate_typed_eq_ok_iff.mp evaluated
  -- The fields stand beside the values in the conditions, and beside the results in the evaluation.
  have pairs : List.Forall₂ (fun before after => before.1 = after.1 ∧ before.2.evaluate = .ok after.2)
      (fields.zip values) (fields.zip results) := by
    clear declared evaluated fit shaped
    induction each generalizing fields with
    | nil => simp
    | cons first _ ih =>
        cases fields with
        | nil => simp
        | cons field fields => exact .cons ⟨rfl, first⟩ ih
  have suits : ∀ pair ∈ fields.zip results, ∀ type,
      TypeFragment.resolveOptional pair.1.type = .ok type →
        (type.getD pair.2.type).isCongruent pair.2.value = true := by
    refine forall_mem_of_forall₂ pairs fun before inside after ⟨same, means⟩ type resolved => ?_
    have own := shaped before.2 (List.of_mem_zip inside).2 after.2 means
    rcases TypeFragment.resolveOptional_eq_ok_iff.mp resolved with
      ⟨_, rfl⟩ | ⟨written, found, fragment, rfl, resolves⟩
    · exact own
    · have fits := fit before inside written (same ▸ fragment) found
        (mem_toOption resolves) after.2 (mem_toOption means)
      exact SqlType.isCongruent_of_fits fits own
  apply Member.isCongruent_assemble
  refine forall_mem_of_forall₂ declared fun pair inside member means => ?_
  obtain ⟨_, resolved, same⟩ := means
  rw [Member.field, same]
  exact suits pair inside member.declared resolved

/-- Without declared types every value of a struct keeps its own type. -/
theorem isCongruent_undeclared {members : List Member}
    (undeclared : ∀ member ∈ members, member.declared = none ∧ member.typed.isCongruent = true) :
    (Member.assemble members).isCongruent = true := by
  apply Member.isCongruent_assemble
  intro member inside
  obtain ⟨none, shaped⟩ := undeclared member inside
  rw [Member.field, none]
  exact shaped

/-- What an expression evaluates to has the shape of its type when all types that meet inside it fit. -/
theorem isCongruent_evaluate (expression : Expression) (result : TypedValue)
    (evaluated : expression.evaluate = .ok result)
    (fit : ∀ node, Within node expression → node.TypesFit) : result.isCongruent = true := by
  induction expression using Expression.induction generalizing result with
  | step whole ih =>
      have here := fit whole .self
      have shaped : ∀ part ∈ whole.parts, ∀ found, part.evaluate = .ok found →
          found.isCongruent = true := by
        intro part member found means
        exact ih part member found means fun node within => fit node (.inside member within)
      cases whole with
      | literal value => exact Literal.isCongruent_result ((evaluate_literal value).symm.trans evaluated)
      | array element items => exact isCongruent_array evaluated here shaped
      | typed fields values => exact isCongruent_typed evaluated here shaped
      | typeless arguments =>
          obtain ⟨members, each, rfl⟩ := evaluate_typeless_eq_ok_iff.mp evaluated
          apply isCongruent_undeclared
          refine forall_mem_of_forall₂ each fun argument inside member means => ?_
          obtain ⟨_, undeclared, evaluates⟩ := means
          exact ⟨undeclared, shaped _ (List.mem_map_of_mem inside) _ evaluates⟩
      | tuple values =>
          obtain ⟨results, each, rfl⟩ := evaluate_tuple_eq_ok_iff.mp evaluated
          apply isCongruent_undeclared
          rw [List.forall_mem_map]
          exact forall_mem_of_forall₂ each fun value inside found means =>
            ⟨rfl, shaped value inside found means⟩
      | parenthesized inner => cases evaluated
      | path segments => cases evaluated
      | parameter name => cases evaluated

/-- The second item has the shape of the first: its array is empty and its scalar of another kind. -/
theorem isCongruent_evaluate_emptyArray :
    (array none [tuple [literal (.integer "1".toList 10), array none [literal (.string "a".toList)]],
        tuple [literal (.boolean true), array none []]]).evaluate =
      .ok ⟨.array (some (.struct [⟨[], .scalar .int64⟩, ⟨[], .array (some (.scalar .string))⟩])),
        .list [.list [.string "1".toList, .list [.string "a".toList]], .list [.bool true, .list []]]⟩ ∧
      TypedValue.isCongruent
        ⟨.array (some (.struct [⟨[], .scalar .int64⟩, ⟨[], .array (some (.scalar .string))⟩])),
          .list [.list [.string "1".toList, .list [.string "a".toList]],
            .list [.bool true, .list []]]⟩ = true := by
  have evaluated : (array none [tuple [literal (.integer "1".toList 10),
        array none [literal (.string "a".toList)]],
      tuple [literal (.boolean true), array none []]]).evaluate =
      .ok ⟨.array (some (.struct [⟨[], .scalar .int64⟩, ⟨[], .array (some (.scalar .string))⟩])),
        .list [.list [.string "1".toList, .list [.string "a".toList]],
          .list [.bool true, .list []]]⟩ := eq_ok_of_toOption (by decide +kernel)
  have leaf (value : Literal) : ∀ node, Within node (literal value) → node.TypesFit :=
    forall_within trivial (by simp [parts])
  have texts : ∀ node, Within node (array none [literal (.string "a".toList)]) → node.TypesFit :=
    forall_within (by decide) (by simpa [parts] using leaf _)
  have empty : ∀ node, Within node (array none []) → node.TypesFit :=
    forall_within (by decide) (by simp [parts])
  have pair (value : Literal) {items : Expression}
      (inside : ∀ node, Within node items → node.TypesFit) :
      ∀ node, Within node (tuple [literal value, items]) → node.TypesFit :=
    forall_within trivial (by simpa [parts] using ⟨leaf value, inside⟩)
  refine ⟨evaluated, isCongruent_evaluate _ _ evaluated ?_⟩
  exact forall_within (by decide +kernel) (by simpa [parts] using ⟨pair _ texts, pair _ empty⟩)

end Expression

end ParamCodec
