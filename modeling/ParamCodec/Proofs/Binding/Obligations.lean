import ParamCodec.Proofs.Binding.Evaluation
import ParamCodec.Proofs.FirstFault

namespace ParamCodec

open Grammar

/-- The fault of the number of a literal, if it is a number and has one. -/
def Literal.numeralFault? : Literal → Option NumeralFault
  | integer text radix =>
    match Numeral.integer radix text with
    | .ok _ => none
    | .error fault => some fault
  | float text =>
    match Numeral.float text with
    | .ok number => if number.isInfinite then some .outOfRange else none
    | .error fault => some fault
  | null | boolean _ | string _ | bytes _ | date _ | timestamp _ | numeric _ | json _ => none

/-- What an expression needs to have a typed value: numbers that can be read, no expression that
evaluation refuses, and for each type a keyword at its end and a type wherever one belongs. -/
inductive Obligation where
  | numeral (literal : Literal)
  | refused (expression : Expression)
  | scalarName (name : Text)
  | elementType (element : Option TypeFragment)
  | fieldType (name : Option Identifier) (index : Nat) (type : Option TypeFragment)

/-- The error of an obligation that is not met. -/
def Obligation.fault? : Obligation → Option Error
  | numeral literal => literal.numeralFault?.map (.invalidNumeral literal)
  | refused expression => some (.unsupported expression)
  | scalarName name => if isAmong scalarKeywords name then none else some (.unknownTypeName name)
  | elementType (some _) => none
  | elementType none => some (.missingElementType .element)
  | fieldType _ _ (some _) => none
  | fieldType name index none =>
    some (.missingElementType (.field (TypeGap.label (TypeFragment.nameText name) index)))

namespace TypeFragment

mutual

/-- The obligations of a type, each before those of the types inside it. -/
def obligations : TypeFragment → List Obligation
  | named name _ => [.scalarName name.name]
  | array none => [.elementType none]
  | array (some element) => .elementType (some element) :: element.obligations
  | struct fields => fieldObligations 0 fields

def fieldObligations (index : Nat) : List (FieldFragment TypeFragment) → List Obligation
  | [] => []
  | ⟨name, none⟩ :: rest => .fieldType name index none :: fieldObligations (index + 1) rest
  | ⟨name, some type⟩ :: rest =>
    .fieldType name index (some type) :: (type.obligations ++ fieldObligations (index + 1) rest)

end

/-- The obligations of a type that may be left out. -/
def statedObligations : Option TypeFragment → List Obligation
  | none => []
  | some type => type.obligations

end TypeFragment

namespace Expression

mutual

/-- The obligations of an expression in the order in which they count. The annotation of an array comes
before its items, the types of a struct that have values come after all of these. -/
def obligations : Expression → List Obligation
  | literal value => [.numeral value]
  | array element items => TypeFragment.statedObligations element ++ obligationsOf items
  | typeless arguments => obligationsOfArguments arguments
  | tuple values => obligationsOf values
  | typed fields values =>
    obligationsOf values ++
      (fields.take values.length).flatMap fun field => TypeFragment.statedObligations field.type
  | parenthesized inner => [.refused (parenthesized inner)]
  | path segments => [.refused (path segments)]
  | parameter name => [.refused (parameter name)]

def obligationsOf : List Expression → List Obligation
  | [] => []
  | expression :: rest => expression.obligations ++ obligationsOf rest

def obligationsOfArguments : List (Argument Expression) → List Obligation
  | [] => []
  | ⟨expression, _⟩ :: rest => expression.obligations ++ obligationsOfArguments rest

end

end Expression

/-- The keywords are the names of the scalar kinds. -/
theorem ScalarKind.isSome_ofKeyword? (word : Text) :
    (ofKeyword? word).isSome = isAmong scalarKeywords word := by
  have names : scalarKeywords.Perm (all.map name) := by decide
  rw [ofKeyword?, isAmong, names.any_eq, List.any_map, Bool.eq_iff_iff, List.find?_isSome, List.any_eq_true]
  rfl

namespace TypeFragment

mutual

/-- A type resolves unless one of its obligations is not met, the first of which counts. -/
theorem resolve_restsOn : (fragment : TypeFragment) →
    RestsOn Obligation.fault? fragment.obligations (fun _ => True) fragment.resolve
  | named name length => by
      have known := ScalarKind.isSome_ofKeyword? name.name
      rw [resolve, obligations]
      cases found : ScalarKind.ofKeyword? name.name with
      | some kind =>
          rw [found] at known
          exact .cons (if_pos known.symm) (.ok trivial)
      | none =>
          rw [found] at known
          exact .error (if_neg (by rw [← known]; decide))
  | array none => .error rfl
  | array (some element) => .cons rfl ((resolve_restsOn element).bind_ok fun _ _ => trivial)
  | struct fields => (resolveFields_restsOn 0 fields).bind_ok fun _ _ => trivial

/-- Resolving fields rests on their obligations in order. -/
theorem resolveFields_restsOn (index : Nat) : (fields : List (FieldFragment TypeFragment)) →
    RestsOn Obligation.fault? (fieldObligations index fields) (fun _ => True)
      (resolveFields index fields)
  | [] => .ok trivial
  | ⟨_, none⟩ :: _ => .error rfl
  | ⟨_, some type⟩ :: rest =>
      .cons rfl ((resolve_restsOn type).bind fun _ _ =>
        (resolveFields_restsOn (index + 1) rest).bind_ok fun _ _ => trivial)

end

/-- Resolving a type that may be missing rests on the obligations that it states. -/
theorem resolveOptional_restsOn (type : Option TypeFragment) :
    RestsOn Obligation.fault? (statedObligations type) (fun _ => True) (resolveOptional type) := by
  cases type with
  | none => exact .ok trivial
  | some type => exact type.resolve_restsOn.map fun _ _ => trivial

end TypeFragment

/-- Fields are looked at as far as there are values. -/
theorem Member.declare_restsOn (fields : List (FieldFragment TypeFragment)) (values : List TypedValue) :
    RestsOn Obligation.fault?
      ((fields.take values.length).flatMap fun field => TypeFragment.statedObligations field.type)
      (fun _ => True) (declare fields values) := by
  induction fields generalizing values with
  | nil => cases values <;> exact .ok trivial
  | cons field fields ih =>
      cases values with
      | nil => exact .ok trivial
      | cons typed values =>
          rw [List.length_cons, List.take_succ_cons, List.flatMap_cons]
          exact (TypeFragment.resolveOptional_restsOn field.type).bind fun _ _ =>
            (ih values).bind_ok fun _ _ => trivial

/-- Evaluating a literal rests on its numeral. -/
theorem Literal.evaluate_restsOn (value : Literal) :
    RestsOn Obligation.fault? [.numeral value] (fun _ => True) value.evaluate := by
  cases value with
  | integer text radix =>
      rw [evaluate]
      cases read : Numeral.integer radix text with
      | ok number => exact .cons (by simp [Obligation.fault?, numeralFault?, read]) (.ok trivial)
      | error fault => exact .error (by simp [Obligation.fault?, numeralFault?, read])
  | float text =>
      rw [evaluate]
      cases read : Numeral.float text with
      | error fault => exact .error (by simp [Obligation.fault?, numeralFault?, read])
      | ok number =>
          dsimp only
          split
          · next infinite => exact .error (by simp [Obligation.fault?, numeralFault?, read, infinite])
          · next finite => exact .cons (by simp [Obligation.fault?, numeralFault?, read, finite]) (.ok trivial)
  | _ => exact .cons rfl (.ok trivial)

namespace Expression

/-- The expression evaluates unless one of its obligations is not met, the first of which counts. -/
def RestsOnObligations (expression : Expression) : Prop :=
  RestsOn Obligation.fault? expression.obligations (fun _ => True) expression.evaluate

/-- Evaluating values in order rests on their obligations in order. -/
theorem evaluateAll_restsOn {values : List Expression} (each : ∀ value ∈ values, value.RestsOnObligations) :
    RestsOn Obligation.fault? (obligationsOf values) (fun results => results.length = values.length)
      (evaluateAll values) := by
  induction values with
  | nil => exact .ok rfl
  | cons value values ih =>
      rw [List.forall_mem_cons] at each
      exact each.1.bind fun typed _ => (ih each.2).bind_ok fun results many => congrArg (· + 1) many

/-- Evaluating arguments in order rests on their obligations in order. -/
theorem evaluateArguments_restsOn {arguments : List (Argument Expression)}
    (each : ∀ argument ∈ arguments, argument.expression.RestsOnObligations) :
    RestsOn Obligation.fault? (obligationsOfArguments arguments) (fun _ => True)
      (evaluateArguments arguments) := by
  induction arguments with
  | nil => exact .ok trivial
  | cons argument arguments ih =>
      rw [List.forall_mem_cons] at each
      exact each.1.bind fun typed _ => (ih each.2).bind_ok fun _ _ => trivial

/-- Evaluating an expression rests on its obligations. -/
theorem evaluate_restsOn (expression : Expression) : expression.RestsOnObligations := by
  induction expression using Expression.induction with
  | step whole ih =>
      cases whole with
      | literal value => exact value.evaluate_restsOn
      | array element items =>
          exact (TypeFragment.resolveOptional_restsOn element).bind fun _ _ =>
            (evaluateAll_restsOn ih).bind_ok fun _ _ => trivial
      | typeless arguments =>
          exact (evaluateArguments_restsOn fun argument member => ih _ (List.mem_map_of_mem member)).bind_ok
            fun _ _ => trivial
      | tuple values => exact (evaluateAll_restsOn ih).bind_ok fun _ _ => trivial
      | typed fields values =>
          have each : ∀ value ∈ values, value.RestsOnObligations := ih
          refine (evaluateAll_restsOn each).bind fun results many => ?_
          -- There are as many results as values, so the same fields have their types resolved.
          rw [← many]
          exact (Member.declare_restsOn fields results).bind_ok fun _ _ => trivial
      | parenthesized inner => exact .error rfl
      | path segments => exact .error rfl
      | parameter name => exact .error rfl

/-- An expression has a typed value exactly when all its obligations are met; otherwise its error is that
of the first one that is not. -/
theorem evaluate_firstUnmet (expression : Expression) :
    ((∃ typed, expression.evaluate = .ok typed) ↔
      ∀ obligation ∈ expression.obligations, obligation.fault? = none) ∧
    ∀ error, expression.evaluate = .error error ↔
      ∃ before obligation after, expression.obligations = before ++ obligation :: after ∧
        obligation.fault? = some error ∧ ∀ earlier ∈ before, earlier.fault? = none :=
  ⟨expression.evaluate_restsOn.succeeds_iff, fun _ => expression.evaluate_restsOn.fails_iff⟩

/-- A value without a field comes before the types of the fields, and inside a type the field without a
type before the unknown name behind it. -/
theorem evaluate_firstUnmet_values :
    (typed [⟨none, some (.array none)⟩]
        [literal (.integer "1".toList 10), parameter ⟨"p".toList, false⟩]).evaluate =
      .error (.unsupported (parameter ⟨"p".toList, false⟩)) ∧
    (array (some (.struct [⟨some ⟨"x".toList, false⟩, none⟩,
        ⟨none, some (.named ⟨"INT63".toList, false⟩ none)⟩])) [path []]).evaluate =
      .error (.missingElementType (.field "x".toList)) ∧
    ∃ value, (array (some (.array (some (.named ⟨"json".toList, false⟩ none))))
      [literal (.float "1.".toList)]).evaluate = .ok value := by
  refine ⟨((evaluate_firstUnmet _).2 _).mpr ?_, ((evaluate_firstUnmet _).2 _).mpr ?_,
    (evaluate_firstUnmet _).1.mpr ?_⟩
  · exact ⟨[.numeral (.integer "1".toList 10)], .refused (parameter ⟨"p".toList, false⟩),
      [.elementType none], rfl, rfl, by decide +kernel⟩
  · exact ⟨[], .fieldType (some ⟨"x".toList, false⟩) 0 none,
      [.fieldType none 1 (some (.named ⟨"INT63".toList, false⟩ none)), .scalarName "INT63".toList,
        .refused (path [])], rfl, rfl, nofun⟩
  · decide +kernel

end Expression

end ParamCodec
