import ParamCodec.Proofs.Grammar.ExpressionForms

namespace ParamCodec.Grammar

/-- The segments of a path leave an end of their source. -/
theorem SegmentsForm.suffix {source rest : Text} {segments : List Identifier}
    (form : SegmentsForm source segments rest) : rest <:+ source := by
  induction form with
  | done _ _ => exact List.suffix_rfl
  | more point skipped read _ ih =>
      have named := (identifier_consumes _ _ _ read).1.trans (skipTrivia_suffix skipped)
      exact ih.trans (named.trans (skipTrivia_properEnd point).1)

/-- Behind an expression that starts with a word stands a proper end of its source. -/
theorem WordForm.properEnd {inner : Reader Expression} (consumes : Consumes inner)
    {source rest : Text} {value : Expression} (form : WordForm inner source value rest) :
    ProperEnd rest source := by
  cases form with
  | constant read _ => exact word_consumes _ _ _ read
  | array keyword angle opens listed =>
      have items := (listed.properEnd consumes).trans (skipTrivia_properEnd opens)
      exact items.trans_suffix ((angle.suffix type_consumes).trans (afterKeyword?_properEnd keyword).1)
  | typed keyword opens declared opensValues listed =>
      have values := (listed.properEnd consumes).trans (skipTrivia_properEnd opensValues)
      have fields := values.trans (declared.properEnd (structField_consumes type_consumes))
      exact (fields.trans (skipTrivia_properEnd opens)).trans (afterKeyword?_properEnd keyword)
  | typeless keyword opens listed =>
      have arguments := listed.properEnd (argument_consumes consumes)
      exact (arguments.trans (skipTrivia_properEnd opens)).trans (afterKeyword?_properEnd keyword)
  | tagged read _ skipped content =>
      have behind := (skipTrivia_suffix skipped).trans (word_consumes _ _ _ read).1
      exact (Quoted.literal_consumes _ _ _ content).trans_suffix behind
  | path read _ _ others => exact .of_suffix others.suffix (word_consumes _ _ _ read)

/-- Behind an expression stands a proper end of its source. -/
theorem ExpressionForm.properEnd {inner : Reader Expression} (consumes : Consumes inner)
    {source rest : Text} {value : Expression} (form : ExpressionForm inner source value rest) :
    ProperEnd rest source := by
  cases form with
  | array listed => exact (listed.properEnd consumes).trans (properEnd_cons _ _)
  | parenthesized listed => exact (listed.properEnd consumes).trans (properEnd_cons _ _)
  | tuple _ listed => exact (listed.properEnd consumes).trans (properEnd_cons _ _)
  | parameter read => exact (identifier_consumes _ _ _ read).trans (properEnd_cons _ _)
  | quoted read => exact Quoted.literal_consumes _ _ _ read
  | number read => exact Number.literal_consumes _ _ _ read
  | path read _ others => exact .of_suffix others.suffix (identifier_consumes _ _ _ read)
  | word _ form => exact form.properEnd consumes

/-- An expression takes at least one letter when those inside it do. -/
theorem expressionWith_consumes {inner : Reader Expression} (consumes : Consumes inner) :
    Consumes (expressionWith inner) := by
  intro source value rest read
  obtain ⟨start, skipped, form⟩ := (expressionWith_eq_ok_iff consumes).mp read
  exact (form.properEnd consumes).trans_suffix (skipTrivia_suffix skipped)

/-- The items of an array depend only on the expressions of shorter sources. -/
theorem arrayItems_congr {inner other : Reader Expression} (consumes : Consumes other)
    {source : Text}
    (same : ∀ start : Text, start.length < source.length → inner start = other start) :
    arrayItems inner source = arrayItems other source := by
  refine bind_congr_ok fun inside opens => ?_
  obtain rfl := token_eq_ok_iff.mp opens
  exact listUntil_congr consumes fun start short => same start (Nat.lt_succ_of_le short)

/-- An argument depends only on the expression of its source. -/
theorem argument_congr {inner other : Reader Expression} {source : Text}
    (same : inner source = other source) : argument inner source = argument other source := by
  rw [argument, argument, same]

/-- A struct depends only on the expressions of shorter sources. -/
theorem structLiteral_congr {inner other : Reader Expression} (consumes : Consumes other)
    {source : Text}
    (same : ∀ start : Text, start.length < source.length → inner start = other start) :
    structLiteral inner source = structLiteral other source := by
  refine bind_congr_ok fun next skipped => ?_
  have short := (skipTrivia_suffix skipped).length_le
  split
  · refine bind_congr_ok fun ⟨fields, after⟩ declared => ?_
    obtain ⟨inside, rfl, members⟩ := (structFields_eq_ok_iff type_consumes).mp declared
    have shorter := (members.properEnd (structField_consumes type_consumes)).2
    refine bind_congr_ok fun behind skip => bind_congr_ok fun values opens => ?_
    obtain rfl := token_eq_ok_iff.mp opens
    have shortest := (skipTrivia_properEnd skip).2
    rw [List.length_cons] at short
    rw [listUntil_congr consumes fun start inner => same start (by omega)]
  · refine bind_congr_ok fun inside opens => ?_
    obtain rfl := token_eq_ok_iff.mp opens
    rw [List.length_cons] at short
    rw [listUntil_congr (argument_consumes consumes) fun start inner =>
      argument_congr (same start (by omega))]

/-- What stands in round brackets depends only on the expressions of sources that are not longer. -/
theorem parentheses_congr {inner other : Reader Expression} (consumes : Consumes other)
    {source : Text}
    (same : ∀ start : Text, start.length ≤ source.length → inner start = other start) :
    parentheses inner source = parentheses other source := by
  rw [parentheses, parentheses, commaList_congr consumes same]

/-- An expression that starts with a word depends only on the expressions of shorter sources. -/
theorem wordExpression_congr {inner other : Reader Expression} (consumes : Consumes other)
    {source : Text}
    (same : ∀ start : Text, start.length < source.length → inner start = other start) :
    wordExpression inner source = wordExpression other source := by
  refine bind_congr_ok fun ⟨name, after⟩ head => ?_
  have shorter := (word_consumes _ _ _ head).2
  have struct : structLiteral inner after = structLiteral other after :=
    structLiteral_congr consumes fun start inside => same start (by omega)
  dsimp only
  rw [struct]
  refine if_congr Iff.rfl rfl (if_congr Iff.rfl rfl (if_congr Iff.rfl rfl (if_congr Iff.rfl ?_ rfl)))
  refine bind_congr_ok fun ⟨element, next⟩ angle => bind_congr_ok fun opening skipped => ?_
  have short := ((angleType_eq_ok_iff.mp angle).suffix type_consumes).length_le
  have shortest : opening.length ≤ next.length := (skipTrivia_suffix skipped).length_le
  rw [arrayItems_congr consumes fun start inside => same start (by omega)]

/-- An expression depends on those inside it only in sources shorter than its own. -/
theorem expressionWith_congr {inner other : Reader Expression} (consumes : Consumes other)
    {source : Text}
    (same : ∀ start : Text, start.length < source.length → inner start = other start) :
    expressionWith inner source = expressionWith other source := by
  refine bind_congr_ok fun start skipped => ?_
  have short := (skipTrivia_suffix skipped).length_le
  have items : arrayItems inner start = arrayItems other start :=
    arrayItems_congr consumes fun next shorter => same next (by omega)
  have words : wordExpression inner start = wordExpression other start :=
    wordExpression_congr consumes fun next shorter => same next (by omega)
  rw [items, words]
  split
  · rfl
  · split
    · next opens =>
      obtain ⟨inside, rfl⟩ := startsWith_iff.mp opens
      rw [List.length_cons] at short
      rw [List.tail_cons]
      exact parentheses_congr consumes fun next shorter => same next (by omega)
    · rfl

/-- Expressions nest: each level reads shorter sources with the level below it. -/
theorem expression_nests : Nests expressionWith expressionAt where
  bottom := fun _ _ _ read => nomatch read
  step := fun _ => rfl
  consumes := fun _ consumes => expressionWith_consumes consumes
  congr := fun _ _ _ consumes same => expressionWith_congr consumes same

/-- An expression takes at least one letter. -/
theorem expression_consumes : Consumes expression :=
  fun source => expression_nests.levels_consume _ source

/-- An expression is read with expressions of any depth inside it. -/
theorem expression_eq_expressionWith (source : Text) :
    expression source = expressionWith expression source :=
  expression_nests.level_eq_outer source

/-- An expression is read exactly where one of its forms stands behind trivia. -/
theorem expression_eq_ok_iff {source rest : Text} {value : Expression} :
    expression source = .ok (value, rest) ↔
      ∃ start, skipTrivia source = .ok start ∧ ExpressionForm expression start value rest := by
  rw [expression_eq_expressionWith, expressionWith_eq_ok_iff expression_consumes]

/-- What holds of an expression when it holds of those inside it holds of every one that is read. -/
theorem expression_induction {motive : Text → Expression → Text → Prop}
    (step : ∀ inner : Reader Expression, Consumes inner →
      (∀ source value rest, inner source = .ok (value, rest) → motive source value rest) →
      ∀ source start value rest, skipTrivia source = .ok start →
        ExpressionForm inner start value rest → motive source value rest)
    {source rest : Text} {value : Expression} (read : expression source = .ok (value, rest)) :
    motive source value rest := by
  refine expression_nests.induction (fun inner consumes inside source value rest read => ?_) _ _ _ _
    read
  obtain ⟨start, skipped, form⟩ := (expressionWith_eq_ok_iff consumes).mp read
  exact step inner consumes inside source start value rest skipped form

end ParamCodec.Grammar
