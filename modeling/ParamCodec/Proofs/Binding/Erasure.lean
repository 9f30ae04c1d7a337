import ParamCodec.Proofs.Binding.Evaluation

namespace ParamCodec

open Grammar

namespace Expression

mutual

/-- The expression without the types that it states: arrays lose their annotations, and every struct
becomes one that only names its values, as far as its fields go. -/
def erased : Expression → Expression
  | literal value => literal value
  | array _ items => array none (erasedAll items)
  | typeless arguments => typeless (erasedArguments arguments)
  | tuple values => typeless (unnamed (erasedAll values))
  | typed fields values => typeless (underFields fields (erasedAll values))
  | parenthesized inner => parenthesized inner.erased
  | path segments => path segments
  | parameter name => parameter name

def erasedAll : List Expression → List Expression
  | [] => []
  | expression :: rest => expression.erased :: erasedAll rest

def erasedArguments : List (Argument Expression) → List (Argument Expression)
  | [] => []
  | ⟨expression, label⟩ :: rest => ⟨expression.erased, label⟩ :: erasedArguments rest

end

/-- Values are erased one by one. -/
theorem erasedAll_eq_map (values : List Expression) : erasedAll values = values.map erased := by
  induction values with
  | nil => rfl
  | cons value values ih => rw [erasedAll, ih, List.map_cons]

/-- Arguments keep their labels when their expressions are erased. -/
theorem erasedArguments_eq_map (arguments : List (Argument Expression)) :
    erasedArguments arguments =
      arguments.map fun argument => ⟨argument.expression.erased, argument.label⟩ := by
  induction arguments with
  | nil => rfl
  | cons argument arguments ih => rw [erasedArguments, ih, List.map_cons]

/-- The parts of an erased tuple are the erased parts. -/
theorem unnamed_erasedAll (values : List Expression) :
    unnamed (erasedAll values) = erasedArguments (unnamed values) := by
  rw [erasedAll_eq_map, erasedArguments_eq_map, unnamed, unnamed, List.map_map, List.map_map]
  rfl

/-- Erased values under the names of fields are the erased arguments. -/
theorem underFields_erasedAll (fields : List (FieldFragment TypeFragment)) (values : List Expression) :
    underFields fields (erasedAll values) = erasedArguments (underFields fields values) := by
  rw [erasedAll_eq_map, erasedArguments_eq_map, underFields, underFields, List.zipWith_map_right,
    List.map_zipWith]

/-- The node is no annotated array and no struct with a declared type. -/
def IsUnannotated : Expression → Prop
  | array element _ => element = none
  | typed fields _ => ∀ field ∈ fields, field.type = none
  | literal _ | typeless _ | tuple _ | parenthesized _ | path _ | parameter _ => True

/-- No type is stated anywhere in the expression. -/
def Unannotated (expression : Expression) : Prop :=
  ∀ node, Within node expression → node.IsUnannotated

/-- No part of an expression states a type when the whole states none. -/
theorem Unannotated.part {whole part : Expression} (unannotated : whole.Unannotated)
    (member : part ∈ whole.parts) : part.Unannotated :=
  fun node within => unannotated node (.inside member within)

/-- The same payload, and under a condition the same type. -/
def Keeps (condition : Prop) (typed other : TypedValue) : Prop :=
  other.value = typed.value ∧ (condition → other.type = typed.type)

/-- Without the types that it states the expression has the same payload, and the same type if it states
none. -/
def ErasesWell (expression : Expression) : Prop :=
  ∀ typed, expression.evaluate = .ok typed →
    ∃ other, expression.erased.evaluate = .ok other ∧ Keeps expression.Unannotated typed other

variable {condition : Prop}

/-- Items erase one by one. -/
theorem exists_erasedAll {values : List Expression} {results : List TypedValue}
    (erases : ∀ value ∈ values, value.ErasesWell)
    (unannotated : condition → ∀ value ∈ values, value.Unannotated)
    (each : List.Forall₂ (fun value result => value.evaluate = .ok result) values results) :
    ∃ others, List.Forall₂ (fun value other => value.evaluate = .ok other) (erasedAll values) others ∧
      List.Forall₂ (Keeps condition) results others := by
  induction each with
  | nil => exact ⟨[], .nil, .nil⟩
  | cons evaluates _ ih =>
      rw [List.forall_mem_cons] at erases
      obtain ⟨other, erased, value, type⟩ := erases.1 _ evaluates
      obtain ⟨others, rest, kept⟩ := ih erases.2 fun holds => (List.forall_mem_cons.mp (unannotated holds)).2
      exact ⟨other :: others, .cons erased rest,
        .cons ⟨value, fun holds => type (List.forall_mem_cons.mp (unannotated holds)).1⟩ kept⟩

/-- Kept items are the same list, and their first one has the same type. -/
theorem keeps_items {results others : List TypedValue}
    (kept : List.Forall₂ (Keeps condition) results others) :
    others.map (·.value) = results.map (·.value) ∧
      (condition → others.head?.map (·.type) = results.head?.map (·.type)) := by
  constructor
  · induction kept with
    | nil => rfl
    | cons first _ ih => rw [List.map_cons, List.map_cons, ih, first.1]
  · intro holds
    cases kept with
    | nil => rfl
    | cons first _ => exact congrArg some (first.2 holds)

/-- An array erases well when its items do. -/
theorem erasesWell_array {element : Option TypeFragment} {items : List Expression}
    (erases : ∀ item ∈ items, item.ErasesWell) : (array element items).ErasesWell := by
  intro typed evaluated
  obtain ⟨annotated, resolved, values, each, rfl⟩ := evaluate_array_eq_ok_iff.mp evaluated
  obtain ⟨others, erased, kept⟩ := exists_erasedAll erases
    (fun (unannotated : (array element items).Unannotated) item member => unannotated.part member) each
  obtain ⟨same, sameType⟩ := keeps_items kept
  refine ⟨_, evaluate_array_eq_ok_iff.mpr ⟨none, rfl, others, erased, rfl⟩,
    congrArg Value.list same, fun unannotated => ?_⟩
  obtain rfl : element = none := unannotated _ .self
  obtain rfl : none = annotated := Except.ok.inj resolved
  exact congrArg SqlType.array (sameType unannotated)

/-- A struct of named values keeps its payload without the types that are stated in it or for it. -/
theorem exists_erasedArguments {arguments : List (Argument Expression)} {members : List Member}
    (erases : ∀ argument ∈ arguments, argument.expression.ErasesWell)
    (unannotated : condition → ∀ argument ∈ arguments, argument.expression.Unannotated)
    (undeclared : condition → ∀ member ∈ members, member.declared = none)
    (gives : List.Forall₂ ArgumentGives arguments members) :
    ∃ others, List.Forall₂ ArgumentMeans (erasedArguments arguments) others ∧
      others.map (·.typed.value) = members.map (·.typed.value) ∧
      (condition → others.map Member.field = members.map Member.field) := by
  induction gives with
  | nil => exact ⟨[], .nil, rfl, fun _ => rfl⟩
  | @cons argument member arguments members first _ ih =>
      obtain ⟨named, evaluates⟩ := first
      simp only [List.forall_mem_cons] at erases unannotated undeclared
      obtain ⟨other, erased, value, type⟩ := erases.1 _ evaluates
      obtain ⟨others, rest, values, fields⟩ :=
        ih erases.2 (fun holds => (unannotated holds).2) fun holds => (undeclared holds).2
      refine ⟨⟨member.name, none, other⟩ :: others, .cons ⟨named, rfl, erased⟩ rest, ?_, fun holds => ?_⟩
      · rw [List.map_cons, List.map_cons, values, value]
      · rw [List.map_cons, List.map_cons, fields holds, Member.field, Member.field,
          (undeclared holds).1, type (unannotated holds).1]

/-- The struct of its members keeps its payload, and its type where no type is stated. -/
theorem exists_erased_struct {whole : Expression} {arguments : List (Argument Expression)}
    {members : List Member} (erases : ∀ part ∈ whole.parts, part.ErasesWell)
    (inside : ∀ argument ∈ arguments, argument.expression ∈ whole.parts)
    (undeclared : whole.Unannotated → ∀ member ∈ members, member.declared = none)
    (gives : List.Forall₂ ArgumentGives arguments members) :
    ∃ other, (typeless (erasedArguments arguments)).evaluate = .ok other ∧
      Keeps whole.Unannotated (Member.assemble members) other := by
  obtain ⟨others, means, values, fields⟩ := exists_erasedArguments
    (fun argument member => erases _ (inside argument member))
    (fun (unannotated : whole.Unannotated) argument member => unannotated.part (inside argument member))
    undeclared gives
  exact ⟨_, evaluate_typeless_eq_ok_iff.mpr ⟨others, means, rfl⟩, congrArg Value.list values,
    fun unannotated => congrArg SqlType.struct (fields unannotated)⟩

/-- A struct without field types erases well when its parts do. -/
theorem erasesWell_typeless {arguments : List (Argument Expression)}
    (erases : ∀ part ∈ (typeless arguments).parts, part.ErasesWell) :
    (typeless arguments).ErasesWell := by
  intro result evaluated
  obtain ⟨members, means, rfl⟩ := evaluate_typeless_eq_ok_iff.mp evaluated
  exact exists_erased_struct erases (fun argument member => List.mem_map_of_mem member)
    (fun _ => forall_mem_of_forall₂ means fun _ _ _ given => given.2.1)
    (means.imp fun _ _ given => ⟨given.1, given.2.2⟩)

/-- A tuple erases well when its values do. -/
theorem erasesWell_tuple {values : List Expression} (erases : ∀ value ∈ values, value.ErasesWell) :
    (tuple values).ErasesWell := by
  intro result evaluated
  obtain ⟨results, each, rfl⟩ := evaluate_tuple_eq_ok_iff.mp evaluated
  have means := argumentMeans_unnamed each
  have inside : ∀ argument ∈ unnamed values, argument.expression ∈ values := by simp [unnamed]
  rw [erased, unnamed_erasedAll]
  exact exists_erased_struct erases inside
    (fun _ => forall_mem_of_forall₂ means fun _ _ _ given => given.2.1)
    (means.imp fun _ _ given => ⟨given.1, given.2.2⟩)

/-- A struct with field types erases well when its values do. -/
theorem erasesWell_typed {fields : List (FieldFragment TypeFragment)} {values : List Expression}
    (erases : ∀ value ∈ values, value.ErasesWell) : (typed fields values).ErasesWell := by
  intro result evaluated
  obtain ⟨results, each, members, declares, rfl⟩ := evaluate_typed_eq_ok_iff.mp evaluated
  have inside : ∀ argument ∈ underFields fields values, argument.expression ∈ values := by
    intro argument member
    rw [underFields, ← List.map_uncurry_zip_eq_zipWith] at member
    obtain ⟨pair, paired, rfl⟩ := List.mem_map.mp member
    exact (List.of_mem_zip paired).2
  rw [erased, underFields_erasedAll]
  exact exists_erased_struct erases inside
    (fun unannotated => Member.undeclared_of_untyped (unannotated _ .self) declares)
    (argumentGives_underFields each declares)

/-- Stated types and the forms of structs do not change a payload: without any of them an expression still
evaluates, to the same payload, and to the same type if it states no types. -/
theorem evaluate_erased (expression : Expression) (typed : TypedValue)
    (evaluated : expression.evaluate = .ok typed) :
    ∃ other, expression.erased.evaluate = .ok other ∧ other.value = typed.value ∧
      ((∀ node, Within node expression → node.IsUnannotated) → other.type = typed.type) := by
  have erases : expression.ErasesWell := by
    clear evaluated
    induction expression using Expression.induction with
    | step whole ih =>
        cases whole with
        | literal value => exact fun typed evaluated => ⟨typed, evaluated, rfl, fun _ => rfl⟩
        | array element items => exact erasesWell_array ih
        | typeless arguments => exact erasesWell_typeless ih
        | tuple values => exact erasesWell_tuple ih
        | typed fields values => exact erasesWell_typed ih
        | parenthesized inner => exact nofun
        | path segments => exact nofun
        | parameter name => exact nofun
  exact erases typed evaluated

/-- A float type that is declared for integers leaves their payloads, and a struct that states no types
keeps its own. -/
theorem evaluate_erased_declared :
    (∃ expression other, parseExpression "STRUCT<x ARRAY<FLOAT64>>([0xff], NULL)".toList = .ok expression ∧
      expression.evaluate = .ok ⟨.struct [⟨"x".toList, .array (some (.scalar .float64))⟩],
        .list [.list [.string "255".toList]]⟩ ∧
      expression.erased.evaluate = .ok other ∧ other.value = .list [.list [.string "255".toList]]) ∧
    ∃ other, (typed [⟨some ⟨"x".toList, false⟩, none⟩, ⟨none, none⟩]
        [tuple [literal (.boolean true)], array none []]).erased.evaluate = .ok other ∧
      other.value = .list [.list [.bool true], .list []] ∧
      other.type = .struct [⟨"x".toList, .struct [⟨[], .scalar .bool⟩]⟩, ⟨[], .array none⟩] := by
  constructor
  · have meaning : (parseExpression "STRUCT<x ARRAY<FLOAT64>>([0xff], NULL)".toList >>= evaluate) =
        .ok ⟨.struct [⟨"x".toList, .array (some (.scalar .float64))⟩],
          .list [.list [.string "255".toList]]⟩ := eq_ok_of_toOption (by decide +kernel)
    obtain ⟨expression, parsed, evaluated⟩ := bind_eq_ok_iff.mp meaning
    obtain ⟨other, succeeds, value, _⟩ := evaluate_erased _ _ evaluated
    exact ⟨expression, other, parsed, evaluated, succeeds, value⟩
  · have evaluated : (typed [⟨some ⟨"x".toList, false⟩, none⟩, ⟨none, none⟩]
          [tuple [literal (.boolean true)], array none []]).evaluate =
        .ok ⟨.struct [⟨"x".toList, .struct [⟨[], .scalar .bool⟩]⟩, ⟨[], .array none⟩],
          .list [.list [.bool true], .list []]⟩ := eq_ok_of_toOption (by decide +kernel)
    have leaf (value : Literal) : ∀ node, Within node (literal value) → node.IsUnannotated :=
      forall_within trivial (by simp [parts])
    have flag : ∀ node, Within node (tuple [literal (.boolean true)]) → node.IsUnannotated :=
      forall_within trivial (by simpa [parts] using leaf _)
    have empty : ∀ node, Within node (array none []) → node.IsUnannotated :=
      forall_within rfl (by simp [parts])
    obtain ⟨other, succeeds, value, type⟩ := evaluate_erased _ _ evaluated
    refine ⟨other, succeeds, value, type (forall_within (by simp [IsUnannotated]) ?_)⟩
    simpa [parts] using ⟨flag, empty⟩

end Expression

end ParamCodec
