import ParamCodec.Display.Cell
import ParamCodec.Proofs.Binding.Evaluation
import ParamCodec.Proofs.Bytes.Base64
import ParamCodec.Proofs.Decimal.Integers

namespace ParamCodec

open Grammar

namespace Literal

/-- What a literal that stands alone is shown as. -/
def alone (literal : Literal) : Except Error Text := literal.evaluate >>= Display.typed

/-- The literals that consist of a keyword and a string. -/
def isTagged : Literal → Bool
  | date _ | timestamp _ | numeric _ | json _ => true
  | _ => false

/-- The text of a literal that stands alone, if it is shown. -/
def ownText (literal : Literal) : Text := literal.alone.toOption.getD []

/-- The text of a literal by its kind; floats and tagged literals have the text they have alone. -/
def display : Literal → Text
  | null => "<null>".toList
  | boolean true => "true".toList
  | boolean false => "false".toList
  | integer text radix => Text.signedDecimal (Numeral.denoted radix text)
  | string text => text
  | bytes content => "0x".toList ++ content.flatMap fun byte => Text.hexadecimal 2 byte.toNat
  | float text => ownText (float text)
  | date text => ownText (date text)
  | timestamp text => ownText (timestamp text)
  | numeric text => ownText (numeric text)
  | json text => ownText (json text)

/-- The error of a tagged literal that is not shown when it stands alone. -/
def displayFault? (literal : Literal) : Option Error :=
  match literal.isTagged, literal.alone with
  | true, .error error => some error
  | _, _ => none

end Literal

/-- The error of the leftmost literal that is not shown alone, or else a result. -/
def unlessFault {α : Type} (literals : List Literal) (result : α) : Except Error α :=
  match literals.findSome? Literal.displayFault? with
  | some error => .error error
  | none => .ok result

section Faults

variable {α β γ : Type}

/-- A change of the result does not touch the faults. -/
theorem unlessFault_map (literals : List Literal) (result : α) (change : α → β) :
    (unlessFault literals result).map change = unlessFault literals (change result) := by
  unfold unlessFault
  split <;> rfl

/-- A fault on the left comes before one on the right. -/
theorem unlessFault_append (first second : List Literal) (left : α) (right : β) (join : α → β → γ) :
    (do
      let left ← unlessFault first left
      let right ← unlessFault second right
      return join left right) = unlessFault (first ++ second) (join left right) := by
  unfold unlessFault
  rw [List.findSome?_append]
  cases first.findSome? Literal.displayFault? with
  | some error => rfl
  | none =>
      cases second.findSome? Literal.displayFault? with
      | some error => rfl
      | none => rfl

end Faults

namespace Literal

variable {literal : Literal} {typed : TypedValue}

/-- A literal that evaluates is shown alone as its typed value. -/
theorem alone_eq (evaluated : literal.evaluate = .ok typed) : literal.alone = Display.typed typed := by
  rw [alone, evaluated]
  rfl

/-- A literal without a tag has no fault. -/
theorem unlessFault_untagged (untagged : literal.isTagged = false) (text : Text) :
    unlessFault [literal] text = .ok text := by
  simp [unlessFault, displayFault?, untagged]

/-- A tagged literal is shown as it is alone, or fails as it does alone. -/
theorem unlessFault_tagged (tagged : literal.isTagged = true)
    (own : literal.display = literal.ownText) :
    unlessFault [literal] literal.display = literal.alone := by
  cases shown : literal.alone with
  | ok text => simp [unlessFault, displayFault?, tagged, own, ownText, shown, Except.toOption]
  | error error => simp [unlessFault, displayFault?, tagged, shown]

/-- An integer is shown as the decimal numeral of what it denotes. -/
theorem typed_integer {text : Text} {radix : Nat} (evaluated : (integer text radix).evaluate = .ok typed) :
    Display.typed typed = .ok (Text.signedDecimal (Numeral.denoted radix text)) := by
  unfold evaluate at evaluated
  cases read : Numeral.integer radix text with
  | error fault =>
      simp only [read] at evaluated
      cases evaluated
  | ok value =>
      simp only [read] at evaluated
      cases evaluated
      obtain ⟨rfl, above, below⟩ := Numeral.integer_sound read
      have again := Numeral.integer_signedDecimal above below
      simp [Display.typed, Display.value, Display.scalar, Value.isNull, Display.scalar?,
        Display.integer?, again, Except.toOption]

/-- Bytes are shown as two hexadecimal digits each, behind `0x`. -/
theorem typed_bytes (content : List UInt8) :
    Display.typed ⟨.scalar .bytes, .string (Base64.encode content)⟩ =
      .ok ("0x".toList ++ content.flatMap fun byte => Text.hexadecimal 2 byte.toNat) := by
  simp [Display.typed, Display.value, Display.scalar, Value.isNull, Display.scalar?, Value.string?,
    Base64.decode?_encode, Display.bytesText, Bytes.hexadecimal]

/-- A float that evaluates is finite, and shown. -/
theorem typed_float {text : Text} (evaluated : (float text).evaluate = .ok typed) :
    ∃ shown, Display.typed typed = .ok shown := by
  unfold evaluate at evaluated
  cases read : Numeral.float text with
  | error fault =>
      simp only [read] at evaluated
      cases evaluated
  | ok value =>
      simp only [read] at evaluated
      split at evaluated
      · cases evaluated
      · cases evaluated
        exact ⟨Display.floatText false value, rfl⟩

/-- A literal that evaluates is shown by its kind, or fails as it does alone. -/
theorem typed_evaluate (evaluated : literal.evaluate = .ok typed) :
    Display.typed typed = unlessFault [literal] literal.display := by
  cases literal with
  | null =>
      cases evaluated
      rfl
  | boolean value =>
      cases evaluated
      cases value <;> rfl
  | integer text radix => exact (typed_integer evaluated).trans (unlessFault_untagged rfl _).symm
  | string text =>
      cases evaluated
      rfl
  | bytes content =>
      cases evaluated
      exact (typed_bytes content).trans (unlessFault_untagged rfl _).symm
  | float text =>
      obtain ⟨shown, same⟩ := typed_float evaluated
      have own : (float text).ownText = shown := by
        rw [ownText, alone_eq evaluated, same]
        rfl
      rw [same, ← own]
      exact (unlessFault_untagged rfl _).symm
  | date text | timestamp text | numeric text | json text =>
      exact (alone_eq evaluated).symm.trans (unlessFault_tagged rfl rfl).symm

end Literal

namespace Expression

/-- A part with its name behind it, if it has one. -/
def labelled : (label : Option Identifier) → (text : Text) → Text
  | some ⟨letter :: name, _⟩, text => text ++ " AS ".toList ++ letter :: name
  | _, text => text

mutual

/-- The literals of an expression from left to right. -/
def literals : Expression → List Literal
  | literal value => [value]
  | array _ items => literalsOf items
  | typeless arguments => literalsOfArguments arguments
  | tuple values => literalsOf values
  | typed _ values => literalsOf values
  | parenthesized _ | path _ | parameter _ => []

def literalsOf : List Expression → List Literal
  | [] => []
  | expression :: rest => expression.literals ++ literalsOf rest

def literalsOfArguments : List (Argument Expression) → List Literal
  | [] => []
  | ⟨expression, _⟩ :: rest => expression.literals ++ literalsOfArguments rest

end

mutual

/-- The text of an expression as it is written: brackets around items, parentheses around the parts of
structs, and names behind their parts. -/
def display : Expression → Text
  | literal value => value.display
  | array _ items => '[' :: Text.commaSeparated (displays items) ++ [']']
  | typeless arguments => '(' :: Text.commaSeparated (argumentDisplays arguments) ++ [')']
  | tuple values => '(' :: Text.commaSeparated (displays values) ++ [')']
  | typed fields values =>
    '(' :: Text.commaSeparated (fields.zipWith (fun field text => labelled field.name text)
      (displays values)) ++ [')']
  | parenthesized _ | path _ | parameter _ => []

def displays : List Expression → List Text
  | [] => []
  | expression :: rest => expression.display :: displays rest

def argumentDisplays : List (Argument Expression) → List Text
  | [] => []
  | ⟨expression, label⟩ :: rest => labelled label expression.display :: argumentDisplays rest

end

/-- A typed value of the expression is shown as the expression is written, unless a literal is not. -/
def Shows (expression : Expression) : Prop :=
  ∀ typed, expression.evaluate = .ok typed →
    Display.typed typed = unlessFault expression.literals expression.display

/-- Items are shown one by one. -/
theorem mapM_typed {items : List Expression} {values : List TypedValue}
    (shows : ∀ item ∈ items, item.Shows)
    (evaluated : List.Forall₂ (fun item value => item.evaluate = .ok value) items values) :
    values.mapM Display.typed = unlessFault (literalsOf items) (displays items) := by
  induction evaluated with
  | nil => rfl
  | @cons item value items values first _ ih =>
      rw [List.forall_mem_cons] at shows
      rw [List.mapM_cons, shows.1 value first, ih shows.2]
      exact unlessFault_append _ _ _ _ List.cons

/-- Items of one type are shown under that type as on their own. -/
theorem mapM_value {element : SqlType} {values : List TypedValue}
    (same : ∀ typed ∈ values, typed.type = element) :
    (values.map (·.value)).mapM (fun item => Display.value element item) =
      values.mapM Display.typed := by
  induction values with
  | nil => rfl
  | cons typed values ih =>
      rw [List.forall_mem_cons] at same
      rw [List.map_cons, List.mapM_cons, List.mapM_cons, ih same.2, ← same.1]
      rfl

/-- An array is shown as its items are when these have one type. -/
theorem shows_array {items : List Expression} (shows : ∀ item ∈ items, item.Shows)
    (alike : ∃ type, ∀ item ∈ items, ∀ typed, item.evaluate = .ok typed → typed.type = type) :
    (array none items).Shows := by
  intro typed evaluated
  obtain ⟨_, unannotated, values, each, rfl⟩ := evaluate_array_eq_ok_iff.mp evaluated
  cases unannotated
  obtain ⟨type, alike⟩ := alike
  have same : ∀ value ∈ values, value.type = type :=
    forall_mem_of_forall₂ each fun item inside value evaluates => alike item inside value evaluates
  have shown := mapM_typed shows each
  cases values with
  | nil =>
      cases each
      rfl
  | cons value values =>
      rw [← mapM_value same, ← same value (List.mem_cons_self ..)] at shown
      calc Display.typed ⟨.array (some value.type), .list ((value :: values).map (·.value))⟩
        _ = (((value :: values).map (·.value)).mapM fun item => Display.value value.type item).map
              Display.bracketed := by rw [Display.typed, Display.value]
        _ = unlessFault (literalsOf items) (Display.bracketed (displays items)) := by
          rw [shown, unlessFault_map]

/-- A part is shown with its label behind it. -/
theorem partText_nameText (label : Option Identifier) (text : Text) :
    Display.partText (TypeFragment.nameText label) text = labelled label text := by
  match label with
  | none | some ⟨[], _⟩ | some ⟨_ :: _, _⟩ => rfl

/-- The parts of a struct without declared types are shown one by one, with their names. -/
theorem structParts_arguments {arguments : List (Argument Expression)} {members : List Member}
    (shows : ∀ argument ∈ arguments, argument.expression.Shows)
    (means : List.Forall₂ ArgumentMeans arguments members) :
    Display.structParts (members.map Member.field) (members.map (·.typed.value)) =
      unlessFault (literalsOfArguments arguments) (argumentDisplays arguments) := by
  induction means with
  | nil => rfl
  | @cons argument member arguments members first _ ih =>
      obtain ⟨expression, label⟩ := argument
      obtain ⟨name, declared, typed⟩ := member
      obtain ⟨rfl, rfl, evaluated⟩ := first
      rw [List.forall_mem_cons] at shows
      have shown : Display.value typed.type typed.value = _ := shows.1 typed evaluated
      simp only [List.map_cons, Member.field, Option.getD_none, Display.structParts, shown, ih shows.2,
        partText_nameText]
      exact unlessFault_append _ _ _ _ fun text parts => labelled label text :: parts

/-- The literals of arguments are those of their expressions. -/
theorem literalsOfArguments_eq (arguments : List (Argument Expression)) :
    literalsOfArguments arguments = literalsOf (arguments.map (·.expression)) := by
  induction arguments with
  | nil => rfl
  | cons argument arguments ih => rw [literalsOfArguments, ih, List.map_cons, literalsOf]

/-- A struct without declared types is shown as its parts are written, with their names. -/
theorem typed_assemble {arguments : List (Argument Expression)} {members : List Member}
    (shows : ∀ part ∈ arguments.map (·.expression), part.Shows)
    (means : List.Forall₂ ArgumentMeans arguments members) :
    Display.typed (Member.assemble members) = unlessFault (literalsOf (arguments.map (·.expression)))
      ('(' :: Text.commaSeparated (argumentDisplays arguments) ++ [')']) := by
  rw [List.forall_mem_map] at shows
  rw [Display.typed, Member.assemble, Display.value, Value.list?, Option.getD_some,
    structParts_arguments shows means, unlessFault_map, literalsOfArguments_eq]
  rfl

/-- A struct without field types is shown as its arguments are. -/
theorem shows_typeless {arguments : List (Argument Expression)}
    (shows : ∀ part ∈ arguments.map (·.expression), part.Shows) : (typeless arguments).Shows := by
  intro typed evaluated
  obtain ⟨members, means, rfl⟩ := evaluate_typeless_eq_ok_iff.mp evaluated
  rw [typed_assemble shows means, literals, literalsOfArguments_eq]
  rfl

/-- The parts of a tuple are shown without names. -/
theorem argumentDisplays_unnamed (values : List Expression) :
    argumentDisplays (unnamed values) = displays values := by
  induction values with
  | nil => rfl
  | cons value values ih =>
      rw [displays, ← ih]
      rfl

/-- A tuple is shown as its values are. -/
theorem shows_tuple {values : List Expression} (shows : ∀ value ∈ values, value.Shows) :
    (tuple values).Shows := by
  intro typed evaluated
  obtain ⟨results, each, rfl⟩ := evaluate_tuple_eq_ok_iff.mp evaluated
  have means := argumentMeans_unnamed each
  rw [← unnamed_expressions values] at shows
  rw [typed_assemble shows means, unnamed_expressions, argumentDisplays_unnamed]
  rfl

/-- The values under the names of fields are the values themselves. -/
theorem underFields_expressions {fields : List (FieldFragment TypeFragment)}
    {values : List Expression} (many : fields.length = values.length) :
    (underFields fields values).map (·.expression) = values := by
  induction fields generalizing values with
  | nil => rw [List.eq_nil_of_length_eq_zero many.symm]; rfl
  | cons field fields ih =>
      obtain ⟨value, values, rfl⟩ := List.exists_cons_of_length_eq_add_one many.symm
      exact congrArg (value :: ·) (ih (Nat.succ.inj many))

/-- The values under the names of fields are shown with these names behind them. -/
theorem argumentDisplays_underFields (fields : List (FieldFragment TypeFragment))
    (values : List Expression) : argumentDisplays (underFields fields values) =
      fields.zipWith (fun field text => labelled field.name text) (displays values) := by
  induction fields generalizing values with
  | nil => rfl
  | cons field fields ih =>
      cases values with
      | nil => rfl
      | cons value values =>
          rw [displays, List.zipWith_cons_cons, ← ih]
          rfl

/-- A field without a type leaves its value as it is. -/
theorem argumentMeans_underFields {fields : List (FieldFragment TypeFragment)}
    {values : List Expression} {results : List TypedValue} {members : List Member}
    (untyped : ∀ field ∈ fields, field.type = none)
    (each : List.Forall₂ (fun value result => value.evaluate = .ok result) values results)
    (declares : List.Forall₂ Member.Declares (fields.zip results) members) :
    List.Forall₂ ArgumentMeans (underFields fields values) members := by
  have gives := (argumentGives_underFields each declares).flip
  have undeclared := Member.undeclared_of_untyped untyped declares
  have both := ((List.forall₂_and_left _ _).mpr ⟨undeclared, gives⟩).flip
  exact both.imp fun _ _ ⟨undeclares, named, evaluates⟩ => ⟨named, undeclares, evaluates⟩

/-- A struct whose fields have names only is shown as its values are, with these names. -/
theorem shows_typed {fields : List (FieldFragment TypeFragment)} {values : List Expression}
    (untyped : ∀ field ∈ fields, field.type = none) (many : fields.length = values.length)
    (shows : ∀ value ∈ values, value.Shows) : (typed fields values).Shows := by
  intro result evaluated
  obtain ⟨results, each, members, declares, rfl⟩ := evaluate_typed_eq_ok_iff.mp evaluated
  have means := argumentMeans_underFields untyped each declares
  rw [← underFields_expressions many] at shows
  rw [typed_assemble shows means, underFields_expressions many, argumentDisplays_underFields]
  rfl

/-- The node is no annotated array or struct and nothing that evaluation refuses, and its items are of
one type. -/
def IsPlain : Expression → Prop
  | literal _ | typeless _ | tuple _ => True
  | array element items => element = none ∧
    ∃ type, ∀ item ∈ items, ∀ typed, item.evaluate = .ok typed → typed.type = type
  | typed fields values => (∀ field ∈ fields, field.type = none) ∧ fields.length = values.length
  | parenthesized _ | path _ | parameter _ => False

/-- Showing undoes evaluation up to what is written: each typed value of a plain expression is shown as
the expression itself, or fails as the leftmost of its literals that is not shown alone. -/
theorem typed_evaluate_eq_display (expression : Expression)
    (plain : ∀ node, Within node expression → node.IsPlain) (typed : TypedValue)
    (evaluated : expression.evaluate = .ok typed) :
    Display.typed typed =
      match expression.literals.findSome? Literal.displayFault? with
      | some error => .error error
      | none => .ok expression.display := by
  have shows : expression.Shows := by
    clear evaluated
    induction expression using Expression.induction with
    | step whole ih =>
        have inner : ∀ part ∈ whole.parts, part.Shows := fun part member =>
          ih part member fun node within => plain node (.inside member within)
        have here := plain whole .self
        cases whole with
        | literal value =>
            intro typed evaluated
            exact Literal.typed_evaluate ((evaluate_literal value).symm.trans evaluated)
        | array element items =>
            obtain ⟨rfl, alike⟩ := here
            exact shows_array inner alike
        | typeless arguments => exact shows_typeless inner
        | tuple values => exact shows_tuple inner
        | typed fields values => exact shows_typed here.1 here.2 inner
        | parenthesized inner => exact here.elim
        | path segments => exact here.elim
        | parameter name => exact here.elim
  exact shows typed evaluated

/-- Dates under a name are shown, and of two literals that are not shown the left one counts. -/
theorem typed_evaluate_eq_display_dates :
    Display.typed ⟨.struct [⟨"d".toList, .array (some (.scalar .date))⟩],
        .list [.list [.string "2020-02-29".toList, .string "2021-12-31".toList]]⟩ =
      .ok "([2020-02-29, 2021-12-31] AS d)".toList ∧
    Display.typed ⟨.struct [⟨[], .scalar .int64⟩, ⟨[], .scalar .numeric⟩, ⟨[], .scalar .json⟩],
        .list [.string "-31".toList, .string "x".toList, .string "\x7b".toList]⟩ =
      .error (.mismatch (.scalar .numeric) (.string "x".toList)) := by
  have leaf (value : Literal) : ∀ node, Within node (literal value) → node.IsPlain :=
    forall_within trivial (by simp [parts])
  constructor
  · have evaluated : (typed [⟨some ⟨"d".toList, false⟩, none⟩]
        [array none [literal (.date "2020-02-29".toList), literal (.date "2021-12-31".toList)]]).evaluate =
        .ok ⟨.struct [⟨"d".toList, .array (some (.scalar .date))⟩],
          .list [.list [.string "2020-02-29".toList, .string "2021-12-31".toList]]⟩ :=
      eq_ok_of_toOption (by decide +kernel)
    have dates : ∀ node, Within node (array none
        [literal (.date "2020-02-29".toList), literal (.date "2021-12-31".toList)]) → node.IsPlain := by
      refine forall_within ⟨rfl, .scalar .date, ?_⟩ (by simpa [parts] using ⟨leaf _, leaf _⟩)
      simp [evaluate_literal, Literal.evaluate]
    have shown := typed_evaluate_eq_display _
      (forall_within (by simp [IsPlain]) (by simpa [parts] using dates)) _ evaluated
    exact shown.trans (eq_ok_of_toOption (by decide +kernel))
  · have evaluated : (tuple [literal (.integer "-1f".toList 16), literal (.numeric "x".toList),
        literal (.json "\x7b".toList)]).evaluate =
        .ok ⟨.struct [⟨[], .scalar .int64⟩, ⟨[], .scalar .numeric⟩, ⟨[], .scalar .json⟩],
          .list [.string "-31".toList, .string "x".toList, .string "\x7b".toList]⟩ :=
      eq_ok_of_toOption (by decide +kernel)
    have shown := typed_evaluate_eq_display _
      (forall_within (by trivial) (by simpa [parts] using ⟨leaf _, leaf _, leaf _⟩)) _ evaluated
    exact shown.trans (eq_error_of_match (by decide +kernel))

end Expression

end ParamCodec
