import ParamCodec.Proofs.Binding.Evaluation
import ParamCodec.Proofs.Grammar.Composition
import ParamCodec.Proofs.Grammar.Overlap

namespace ParamCodec

namespace Grammar

/-- No fragment goes on with a square bracket. -/
theorem endsFragment_bracket (inside : Text) : EndsFragment ('[' :: inside) where
  noMark mark member := by
    have noBracket : mark ∉ ['['] := not_mem_of_mem member (by decide)
    rw [List.mem_singleton] at noBracket
    exact startsWith_other (· == '[') inside rfl (beq_eq_false_iff_ne.mpr noBracket)
  noLiteral := startsLiteral_other (· == '[') inside rfl (by decide)

/-- Behind a type that has been read as a whole the source of an expression starts like the type. -/
theorem TypeForm.startsLine {inner : Reader TypeFragment} {source start rest : Text}
    {fragment : TypeFragment} (skipped : skipTrivia source = .ok start)
    (form : TypeForm inner start fragment rest) (consumes : Consumes inner)
    (ended : skipTrivia rest = .ok []) (more : Text) :
    skipTrivia (closedLine source ++ more) = .ok (start ++ '\n' :: more) ∧
      Quoted.startsLiteral (start ++ '\n' :: more) = false := by
  constructor
  · rw [closedLine_append]
    exact skipTrivia_append skipped (form.properEnd consumes).stands (breaks_newline more)
  · rw [Quoted.startsLiteral_append (breaks_newline more)]
    exact form.noQuoted ended

/-- An array type in front of items in brackets is their annotation. -/
theorem expression_behindArray {code inside rest : Text} {element : Option TypeFragment}
    {items : List Expression} (read : whole type code = .ok (.array element))
    (listed : ListedUntil expression ']' inside items rest) :
    expression (closedLine code ++ '[' :: inside) = .ok (.array element items, rest) := by
  obtain ⟨left, first, ended⟩ := whole_eq_ok_iff.mp read
  obtain ⟨start, skipped, form⟩ := type_eq_ok_iff.mp first
  obtain ⟨starts, noLiteral⟩ := form.startsLine skipped type_consumes ended ('[' :: inside)
  have breaks := breaks_newline ('[' :: inside)
  have opens : skipTrivia (left ++ '\n' :: '[' :: inside) = .ok ('[' :: inside) :=
    (skipTrivia_append_newline _ ended).trans (skipTrivia_solid inside (by decide))
  have continues : Continues left ('\n' :: '[' :: inside) :=
    ⟨breaks, fun _ => ⟨_, opens, endsFragment_bracket inside⟩⟩
  apply expression_eq_ok_iff.mpr
  refine ⟨_, starts, .word noLiteral ?_⟩
  cases form with
  | array keyword angle =>
      exact .array (afterKeyword?_more_some keyword breaks)
        (angle.append type_extends.inside continues) opens listed
  | named named => cases named

/-- A struct type in front of values in parentheses declares their fields. -/
theorem expression_behindStruct {code inside rest : Text}
    {fields : List (FieldFragment TypeFragment)} {values : List Expression}
    (read : whole type code = .ok (.struct fields))
    (listed : ListedUntil expression ')' inside values rest) :
    expression (closedLine code ++ '(' :: inside) = .ok (.typed fields values, rest) := by
  obtain ⟨left, first, ended⟩ := whole_eq_ok_iff.mp read
  obtain ⟨start, skipped, form⟩ := type_eq_ok_iff.mp first
  obtain ⟨starts, noLiteral⟩ := form.startsLine skipped type_consumes ended ('(' :: inside)
  have breaks := breaks_newline ('(' :: inside)
  have opensValues : skipTrivia (left ++ '\n' :: '(' :: inside) = .ok ('(' :: inside) :=
    (skipTrivia_append_newline _ ended).trans (skipTrivia_solid inside (by decide))
  apply expression_eq_ok_iff.mpr
  refine ⟨_, starts, .word noLiteral ?_⟩
  cases form with
  | struct keyword opens declared =>
      apply WordForm.typed (afterKeyword?_more_some keyword breaks)
      · exact skipTrivia_append opens (List.cons_ne_nil _ _) breaks
      · exact declared.append (structField_consumes type_consumes)
          (structField_extends type_consumes type_extends) breaks
      · exact opensValues
      · exact listed
  | named named => cases named

/-- Sources on lines of their own are the items in front of a closing bracket. -/
theorem listed_closedLines {sources : List Text} {expressions : List Expression} {close : Char}
    (closes : close ∈ [']', ')'])
    (reads : List.Forall₂ (fun source value => parseExpression source = .ok value) sources
      expressions) :
    ListedUntil expression close (closedLines sources ++ [close]) expressions [] := by
  have blank (source : Text) : expression ([] ++ source) = expression source := rfl
  exact expressions_listed closes blank (embeds_closedLines reads)

end Grammar

open Grammar

/-- The source is an expression, and its value has the payload. -/
def EvaluatesTo (source : Text) (value : Value) : Prop :=
  ∃ typed, parseExpression source >>= Expression.evaluate = .ok typed ∧ typed.value = value

/-- Sources that evaluate have expressions and typed values. -/
theorem expressions_of_evaluatesTo {sources : List Text} {values : List Value}
    (each : List.Forall₂ EvaluatesTo sources values) :
    ∃ expressions results,
      List.Forall₂ (fun source value => parseExpression source = .ok value) sources expressions ∧
      List.Forall₂ (fun value result => value.evaluate = .ok result) expressions results ∧
      results.map (·.value) = values := by
  induction each with
  | nil => exact ⟨[], [], .nil, .nil, rfl⟩
  | cons first _ ih =>
      obtain ⟨typed, evaluated, rfl⟩ := first
      obtain ⟨expression, read, means⟩ := bind_eq_ok_iff.mp evaluated
      obtain ⟨expressions, results, reads, meaning, rfl⟩ := ih
      exact ⟨expression :: expressions, typed :: results, .cons read reads, .cons means meaning, rfl⟩

/-- Values of declared fields, as many as there are fields, make up the struct of these fields. -/
theorem members_of_fields {fragments : List (FieldFragment TypeFragment)}
    {fields : List (Field SqlType)} {results : List TypedValue}
    (means : List.Forall₂ TypeFragment.FieldMeans fragments fields)
    (same : fields.length = results.length) :
    ∃ members, List.Forall₂ Member.Declares (fragments.zip results) members ∧
      Member.assemble members = ⟨.struct fields, .list (results.map (·.value))⟩ := by
  induction means generalizing results with
  | nil =>
      obtain rfl := List.length_eq_zero_iff.mp same.symm
      exact ⟨[], .nil, rfl⟩
  | @cons fragment field fragments fields first _ ih =>
      cases results with
      | nil => cases same
      | cons result results =>
          obtain ⟨named, written, type, resolves⟩ := first
          obtain ⟨members, declares, whole⟩ := ih (Nat.succ.inj same)
          refine ⟨⟨field.name, some field.type, result⟩ :: members, .cons ⟨named, ?_, rfl⟩ declares, ?_⟩
          · exact TypeFragment.resolveOptional_eq_ok_iff.mpr (.inr ⟨written, _, type, rfl, resolves⟩)
          · simp only [Member.assemble, TypedValue.mk.injEq, SqlType.struct.injEq,
              Value.list.injEq] at whole
            simp only [Member.assemble, List.map_cons, whole.1, whole.2]
            rfl

/-- A type fragment means the type that it gives to the items or the values behind it. -/
theorem evaluate_behindType (code : Text) (meant : TypedValue) (sources : List Text)
    (values : List Value) (resolved : parseType code >>= resolveType = .ok meant)
    (each : List.Forall₂ EvaluatesTo sources values) :
    (∀ element, meant.type = .array element →
      parseExpression (closedLine code ++ '[' :: closedLines sources ++ [']']) >>=
        Expression.evaluate = .ok ⟨meant.type, .list values⟩) ∧
    (∀ fields, meant.type = .struct fields → fields.length = values.length →
      parseExpression (closedLine code ++ '(' :: closedLines sources ++ [')']) >>=
        Expression.evaluate = .ok ⟨meant.type, .list values⟩) := by
  obtain ⟨fragment, read, means⟩ := bind_eq_ok_iff.mp resolved
  obtain ⟨resolves, _⟩ := resolveType_eq_ok_iff.mp means
  have read := parseType_eq_ok_iff.mp read
  obtain ⟨expressions, results, reads, evaluated, rfl⟩ := expressions_of_evaluatesTo each
  constructor
  · intro element isArray
    rw [isArray] at resolves
    obtain ⟨inner, type, rfl, rfl, found⟩ := TypeFragment.array_of_resolve resolves
    have whole := expression_behindArray read (listed_closedLines (by decide) reads)
    rw [List.append_assoc, isArray]
    refine bind_eq_ok_iff.mpr ⟨_, parseExpression_eq_ok whole, ?_⟩
    apply Expression.evaluate_array_eq_ok_iff.mpr
    refine ⟨some type, ?_, results, evaluated, rfl⟩
    exact TypeFragment.resolveOptional_eq_ok_iff.mpr (.inr ⟨inner, type, rfl, rfl, found⟩)
  · intro fields isStruct same
    rw [isStruct] at resolves
    rw [List.length_map] at same
    obtain ⟨fragments, rfl, declared⟩ := TypeFragment.struct_of_resolve resolves
    have whole := expression_behindStruct read (listed_closedLines (by decide) reads)
    -- There are as many values as fields, so each field declares a member.
    obtain ⟨members, declares, assembled⟩ := members_of_fields declared same
    rw [List.append_assoc, isStruct]
    refine bind_eq_ok_iff.mpr ⟨_, parseExpression_eq_ok whole, ?_⟩
    exact Expression.evaluate_typed_eq_ok_iff.mpr ⟨results, evaluated, members, declares, assembled⟩

/-- Comments may stand behind the type and behind each item, and names keep their case. -/
theorem evaluate_behindType_comments :
    parseExpression (closedLine "ARRAY<STRUCT<a INT64>> -- rows".toList ++
        '[' :: closedLines ["NULL # none".toList, "'x'".toList] ++ [']']) >>=
        Expression.evaluate =
      .ok ⟨.array (some (.struct [⟨"a".toList, .scalar .int64⟩])),
        .list [.null, .string "x".toList]⟩ ∧
    parseExpression (closedLine "Struct<x array<date>, `y z` Int64>/**/".toList ++
        '(' :: closedLines ["[ ]".toList, "TRUE".toList] ++ [')']) >>=
        Expression.evaluate =
      .ok ⟨.struct [⟨"x".toList, .array (some (.scalar .date))⟩, ⟨"y z".toList, .scalar .int64⟩],
        .list [.list [], .bool true]⟩ := by
  have rows : parseType "ARRAY<STRUCT<a INT64>> -- rows".toList >>= resolveType =
      .ok ⟨.array (some (.struct [⟨"a".toList, .scalar .int64⟩])), .null⟩ :=
    eq_ok_of_toOption (by decide +kernel)
  have row : parseType "Struct<x array<date>, `y z` Int64>/**/".toList >>= resolveType =
      .ok ⟨.struct [⟨"x".toList, .array (some (.scalar .date))⟩, ⟨"y z".toList, .scalar .int64⟩],
        .list [.null, .null]⟩ := eq_ok_of_toOption (by decide +kernel)
  have null : EvaluatesTo "NULL # none".toList .null :=
    ⟨⟨.scalar .int64, .null⟩, eq_ok_of_toOption (by decide +kernel), rfl⟩
  have text : EvaluatesTo "'x'".toList (.string "x".toList) :=
    ⟨⟨.scalar .string, _⟩, eq_ok_of_toOption (by decide +kernel), rfl⟩
  have empty : EvaluatesTo "[ ]".toList (.list []) :=
    ⟨⟨.array none, _⟩, eq_ok_of_toOption (by decide +kernel), rfl⟩
  have truth : EvaluatesTo "TRUE".toList (.bool true) :=
    ⟨⟨.scalar .bool, _⟩, eq_ok_of_toOption (by decide +kernel), rfl⟩
  constructor
  · exact (evaluate_behindType _ _ _ _ rows (.cons null (.cons text .nil))).1 _ rfl
  · exact (evaluate_behindType _ _ _ _ row (.cons empty (.cons truth .nil))).2 _ rfl rfl

end ParamCodec
