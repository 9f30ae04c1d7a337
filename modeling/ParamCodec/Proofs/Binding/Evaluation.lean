import ParamCodec.Binding.LiteralMeaning
import ParamCodec.Proofs.Binding.Resolution

namespace ParamCodec

open Grammar

/-- What every partner of a member has, every member of the second list has. -/
theorem forall_mem_of_forall₂ {α β : Type} {related : α → β → Prop} {motive : β → Prop}
    {first : List α} {second : List β} (pairs : List.Forall₂ related first second)
    (imp : ∀ left ∈ first, ∀ right, related left right → motive right) :
    ∀ right ∈ second, motive right := by
  induction pairs with
  | nil => simp
  | cons pair _ ih =>
      rw [List.forall_mem_cons] at imp ⊢
      exact ⟨imp.1 _ pair, ih imp.2⟩

namespace Expression

/-- The expressions that stand directly inside an expression. -/
def parts : Expression → List Expression
  | array _ items => items
  | typeless arguments => arguments.map (·.expression)
  | tuple values => values
  | typed _ values => values
  | parenthesized inner => [inner]
  | literal _ | path _ | parameter _ => []

/-- What holds of an expression when it holds of its parts. -/
@[elab_as_elim]
theorem induction {motive : Expression → Prop}
    (step : ∀ whole, (∀ part ∈ whole.parts, motive part) → motive whole) (whole : Expression) :
    motive whole := by
  refine @Expression.rec motive (fun values => ∀ value ∈ values, motive value)
    (fun arguments => ∀ argument ∈ arguments, motive argument.expression)
    (fun argument => motive argument.expression)
    ?_ ?_ ?_ ?_ ?_ ?_ ?_ ?_ (by simp) ?_ (by simp) ?_ (fun _ _ inner => inner) whole
  · exact fun value => step (literal value) (by simp [parts])
  · exact fun element items inner => step (array element items) inner
  · exact fun arguments inner => step (typeless arguments) (by simpa [parts] using inner)
  · exact fun values inner => step (tuple values) inner
  · exact fun fields values inner => step (typed fields values) inner
  · exact fun expression inner => step (parenthesized expression) (by simpa [parts] using inner)
  · exact fun segments => step (path segments) (by simp [parts])
  · exact fun name => step (parameter name) (by simp [parts])
  · exact fun value values first rest => List.forall_mem_cons.mpr ⟨first, rest⟩
  · exact fun argument arguments first rest => List.forall_mem_cons.mpr ⟨first, rest⟩

/-- The node is the expression or stands inside it at any depth. -/
inductive Within (node : Expression) : Expression → Prop
  | self : Within node node
  | inside {part whole : Expression} (member : part ∈ whole.parts) (within : Within node part) :
      Within node whole

/-- What holds of an expression and of all nodes in its parts holds of all nodes in it. -/
theorem forall_within {motive : Expression → Prop} {whole : Expression} (here : motive whole)
    (inside : ∀ part ∈ whole.parts, ∀ node, Within node part → motive node) :
    ∀ node, Within node whole → motive node := by
  intro node within
  cases within with
  | self => exact here
  | inside member within => exact inside _ member node within

/-- Values evaluate one by one. -/
theorem evaluateAll_eq_ok_iff {values : List Expression} {results : List TypedValue} :
    evaluateAll values = .ok results ↔
      List.Forall₂ (fun value typed => value.evaluate = .ok typed) values results := by
  induction values generalizing results with
  | nil => cases results <;> simp [evaluateAll]
  | cons value values ih =>
      simp only [evaluateAll, bind_eq_ok_iff, pure_eq_ok, ih]
      constructor
      · rintro ⟨typed, first, others, rest, same⟩
        cases same
        exact .cons first rest
      · rintro (_ | ⟨first, rest⟩)
        exact ⟨_, first, _, rest, rfl⟩

/-- The member of a struct that an argument gives. -/
def ArgumentMeans (argument : Argument Expression) (member : Member) : Prop :=
  member.name = TypeFragment.nameText argument.label ∧ member.declared = none ∧
    argument.expression.evaluate = .ok member.typed

/-- Arguments evaluate exactly when each gives its member. -/
theorem evaluateArguments_eq_ok_iff {arguments : List (Argument Expression)}
    {members : List Member} :
    evaluateArguments arguments = .ok members ↔ List.Forall₂ ArgumentMeans arguments members := by
  induction arguments generalizing members with
  | nil => cases members <;> simp [evaluateArguments]
  | cons argument arguments ih =>
      simp only [evaluateArguments, bind_eq_ok_iff, pure_eq_ok, ih]
      constructor
      · rintro ⟨typed, first, others, rest, same⟩
        cases same
        exact .cons ⟨rfl, rfl, first⟩ rest
      · rintro (_ | ⟨⟨named, undeclared, first⟩, rest⟩)
        exact ⟨_, first, _, rest, by rw [← named, ← undeclared]⟩

/-- The parts of a tuple have no names. -/
def unnamed (values : List Expression) : List (Argument Expression) := values.map (⟨·, none⟩)

/-- The parts of a tuple are its values. -/
theorem unnamed_expressions (values : List Expression) :
    (unnamed values).map (·.expression) = values := by
  rw [unnamed, List.map_map]
  exact List.map_id values

/-- The parts of a tuple give members without names. -/
theorem argumentMeans_unnamed {values : List Expression} {results : List TypedValue}
    (each : List.Forall₂ (fun value result => value.evaluate = .ok result) values results) :
    List.Forall₂ ArgumentMeans (unnamed values) (results.map fun result => ⟨[], none, result⟩) := by
  rw [unnamed, List.forall₂_map_left_iff, List.forall₂_map_right_iff]
  exact each.imp fun _ _ evaluates => ⟨rfl, rfl, evaluates⟩

end Expression

/-- The member of a struct that a declared field and its value give. -/
def Member.Declares (pair : FieldFragment TypeFragment × TypedValue) (member : Member) : Prop :=
  member.name = TypeFragment.nameText pair.1.name ∧
    TypeFragment.resolveOptional pair.1.type = .ok member.declared ∧ member.typed = pair.2

/-- Declared fields and values make up a struct in pairs. -/
theorem Member.declare_eq_ok_iff {fields : List (FieldFragment TypeFragment)}
    {values : List TypedValue} {members : List Member} :
    declare fields values = .ok members ↔ List.Forall₂ Declares (fields.zip values) members := by
  induction fields generalizing values members with
  | nil => cases members <;> simp [declare]
  | cons field fields ih =>
      cases values with
      | nil => cases members <;> simp [declare]
      | cons typed values =>
          simp only [declare, bind_eq_ok_iff, pure_eq_ok, ih, List.zip_cons_cons]
          constructor
          · rintro ⟨declared, first, others, rest, same⟩
            cases same
            exact .cons ⟨rfl, first, rfl⟩ rest
          · rintro (_ | ⟨⟨named, first, same⟩, rest⟩)
            dsimp only at named same
            exact ⟨_, first, _, rest, by rw [← named, ← same]⟩

/-- Fields without types declare none. -/
theorem Member.undeclared_of_untyped {fields : List (FieldFragment TypeFragment)}
    {values : List TypedValue} {members : List Member} (untyped : ∀ field ∈ fields, field.type = none)
    (declares : List.Forall₂ Declares (fields.zip values) members) :
    ∀ member ∈ members, member.declared = none := by
  refine forall_mem_of_forall₂ declares fun pair inside member means => ?_
  obtain ⟨_, resolved, _⟩ := means
  rw [untyped pair.1 (List.of_mem_zip inside).1] at resolved
  exact (Except.ok.inj resolved).symm

namespace Expression

/-- The values of a struct under the names of its fields. -/
def underFields (fields : List (FieldFragment TypeFragment)) (values : List Expression) :
    List (Argument Expression) :=
  fields.zipWith (fun field value => ⟨value, field.name⟩) values

/-- The member has the name of the argument and its value, whatever type is declared for it. -/
def ArgumentGives (argument : Argument Expression) (member : Member) : Prop :=
  member.name = TypeFragment.nameText argument.label ∧ argument.expression.evaluate = .ok member.typed

/-- Values under the names of fields give the members that the fields declare. -/
theorem argumentGives_underFields {fields : List (FieldFragment TypeFragment)}
    {values : List Expression} {results : List TypedValue} {members : List Member}
    (each : List.Forall₂ (fun value result => value.evaluate = .ok result) values results)
    (declares : List.Forall₂ Member.Declares (fields.zip results) members) :
    List.Forall₂ ArgumentGives (underFields fields values) members := by
  induction each generalizing fields members with
  | nil =>
      cases fields <;> cases declares <;> exact .nil
  | cons evaluates _ ih =>
      cases fields with
      | nil =>
          cases declares
          exact .nil
      | cons field fields =>
          cases declares with
          | cons declared others =>
              obtain ⟨named, _, typed⟩ := declared
              exact .cons ⟨named, typed ▸ evaluates⟩ (ih others)

/-- A literal evaluates as it does alone. -/
theorem evaluate_literal (value : Literal) : (literal value).evaluate = value.evaluate :=
  evaluate.eq_def _

/-- An array evaluates exactly when its type resolves and its items evaluate; without a type the first
item decides it. -/
theorem evaluate_array_eq_ok_iff {element : Option TypeFragment} {items : List Expression}
    {typed : TypedValue} :
    (array element items).evaluate = .ok typed ↔
      ∃ annotated, TypeFragment.resolveOptional element = .ok annotated ∧
        ∃ values, List.Forall₂ (fun item value => item.evaluate = .ok value) items values ∧
          ⟨.array (annotated <|> values.head?.map (·.type)), .list (values.map (·.value))⟩ =
            typed := by
  simp only [evaluate, bind_eq_ok_iff, pure_eq_ok, evaluateAll_eq_ok_iff, Except.ok.injEq]

/-- A struct without field types evaluates exactly when its arguments do. -/
theorem evaluate_typeless_eq_ok_iff {arguments : List (Argument Expression)} {typed : TypedValue} :
    (typeless arguments).evaluate = .ok typed ↔
      ∃ members, List.Forall₂ ArgumentMeans arguments members ∧ Member.assemble members = typed := by
  simp only [evaluate, bind_eq_ok_iff, pure_eq_ok, evaluateArguments_eq_ok_iff, Except.ok.injEq]

/-- A tuple evaluates exactly when its values do, and its members have no names. -/
theorem evaluate_tuple_eq_ok_iff {values : List Expression} {typed : TypedValue} :
    (tuple values).evaluate = .ok typed ↔
      ∃ results, List.Forall₂ (fun value result => value.evaluate = .ok result) values results ∧
        Member.assemble (results.map fun result => ⟨[], none, result⟩) = typed := by
  simp only [evaluate, bind_eq_ok_iff, pure_eq_ok, evaluateAll_eq_ok_iff, Except.ok.injEq]

/-- A struct with field types evaluates exactly when its values do and each field declares its member.
-/
theorem evaluate_typed_eq_ok_iff {fields : List (FieldFragment TypeFragment)}
    {values : List Expression} {result : TypedValue} :
    (typed fields values).evaluate = .ok result ↔
      ∃ results, List.Forall₂ (fun value result => value.evaluate = .ok result) values results ∧
        ∃ members, List.Forall₂ Member.Declares (fields.zip results) members ∧
          Member.assemble members = result := by
  simp only [evaluate, bind_eq_ok_iff, pure_eq_ok, evaluateAll_eq_ok_iff,
    Member.declare_eq_ok_iff, Except.ok.injEq]

end Expression

end ParamCodec
