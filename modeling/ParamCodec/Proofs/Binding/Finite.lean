import ParamCodec.Proofs.Binding.Evaluation
import ParamCodec.Proofs.Decimal.Floats
import ParamCodec.Proofs.Grammar.NumberFragments
import ParamCodec.Proofs.Typed.Payload

namespace ParamCodec

namespace Grammar

/-- The text of a float is the number that stands in the source. -/
theorem Number.Lexeme.float {lexeme text : Text} (form : Lexeme lexeme (.float text)) :
    Lexeme text (.float text) := by
  have same := form.sql
  rwa [Literal.sql_float] at same

/-- Among the forms of an expression only a number gives a float. -/
theorem ExpressionForm.float {inner : Reader Expression} {source text rest : Text}
    (form : ExpressionForm inner source (.literal (.float text)) rest) :
    Number.Lexeme text (.float text) := by
  obtain ⟨_, _, form, _⟩ := Number.literal_eq_ok_iff.mp (form.number_of_literal rfl)
  exact form.float

/-- What stands directly inside an expression was read as an expression. -/
theorem ExpressionForm.parts_read {inner : Reader Expression} {source rest : Text}
    {value : Expression} (form : ExpressionForm inner source value rest) :
    ∀ part ∈ value.parts, ∃ start left, inner start = .ok (part, left) := by
  cases form with
  | array listed => exact listed.values_read
  | parenthesized listed => exact listed.values_read
  | tuple _ listed => exact listed.values_read
  | word _ form =>
      cases form with
      | array _ _ _ listed => exact listed.values_read
      | typed _ _ _ _ listed => exact listed.values_read
      | typeless _ _ listed =>
          intro part member
          obtain ⟨value, inside, rfl⟩ := List.mem_map.mp member
          obtain ⟨start, left, found⟩ := listed.values_read value inside
          cases argument_eq_ok_iff.mp found with
          | plain read _ _ => exact ⟨_, _, read⟩
          | labelled read _ _ _ _ => exact ⟨_, _, read⟩
      | _ => simp [Expression.parts]
  | _ => simp [Expression.parts]

end Grammar

open Grammar

/-- The floats at any depth of an expression are written as numbers. -/
def Expression.Lexical (expression : Expression) : Prop :=
  ∀ text, Within (.literal (.float text)) expression → Number.Lexeme text (.float text)

/-- The floats of a part are written as numbers when those of the whole are. -/
theorem Expression.Lexical.part {part whole : Expression} (lexical : whole.Lexical)
    (member : part ∈ whole.parts) : part.Lexical :=
  fun text within => lexical text (.inside member within)

/-- The floats of an expression that is read are written as numbers. -/
theorem lexical_of_read {source rest : Text} {value : Expression}
    (read : expression source = .ok (value, rest)) : value.Lexical := by
  refine expression_induction (motive := fun _ value _ => value.Lexical) ?_ read
  intro inner _ inside source start value rest _ form text within
  cases within with
  | self => exact form.float
  | inside member within =>
      obtain ⟨_, _, read⟩ := form.parts_read _ member
      exact inside _ _ _ read text within

/-- The floats of an expression that is parsed are written as numbers. -/
theorem lexical_of_parseExpression {source : Text} {value : Expression}
    (read : parseExpression source = .ok value) : value.Lexical := by
  obtain ⟨rest, first, _⟩ := whole_eq_ok_iff.mp (parseExpression_eq_ok_iff.mp read)
  exact lexical_of_read first

/-- A number that is read from a source is never the one that is not a number. -/
theorem Numeral.float_finite_or_infinite {text : Text} {number : Binary64}
    (form : Number.Lexeme text (.float text)) (read : Numeral.float text = .ok number) :
    number.isFinite = true ∨ number.isInfinite = true := by
  obtain ⟨sign, body, parts, rfl, signed, spells⟩ := form.spells
  rw [Numeral.float_of_spells signed spells] at read
  cases read
  exact Binary64.ofDecimal_finite_or_infinite _ _ _

/-- A scalar literal whose float is a number has no other number than a finite one. -/
theorem Literal.isFinite_evaluate {value : Literal} {result : TypedValue}
    (lexical : (Expression.literal value).Lexical) (evaluated : value.evaluate = .ok result) :
    result.value.IsFinite := by
  cases value with
  | float text =>
      simp only [evaluate] at evaluated
      split at evaluated
      · next number read =>
        split_ifs at evaluated with infinite
        cases evaluated
        have either := Numeral.float_finite_or_infinite (lexical text .self) read
        exact Value.isFinite_number_iff.mpr (either.resolve_right infinite)
      · cases evaluated
  | integer text radix =>
      simp only [evaluate] at evaluated
      split at evaluated
      · cases evaluated
        simp [Value.IsFinite, Value.numbers]
      · cases evaluated
  | _ =>
      cases evaluated
      simp [Value.IsFinite, Value.numbers, TypedValue.absent]

/-- A struct has finite numbers when its members do. -/
theorem Member.isFinite_assemble {members : List Member}
    (each : ∀ member ∈ members, member.typed.value.IsFinite) : (assemble members).value.IsFinite := by
  apply Value.isFinite_list_iff.mpr
  rw [List.forall_mem_map]
  exact each

/-- Evaluation finds no number that is not finite, at any depth. -/
theorem Expression.isFinite_evaluate {expression : Expression} {result : TypedValue}
    (lexical : expression.Lexical) (evaluated : expression.evaluate = .ok result) :
    result.value.IsFinite := by
  -- Each form makes its payload of those of its parts, and only float literals are numbers of their
  -- own.
  induction expression using Expression.induction generalizing result with
  | step whole ih =>
      have finite : ∀ part ∈ whole.parts, ∀ found, part.evaluate = .ok found →
          found.value.IsFinite :=
        fun part member found means => ih part member (lexical.part member) means
      cases whole with
      | literal value =>
          exact Literal.isFinite_evaluate lexical ((evaluate_literal value).symm.trans evaluated)
      | array element items =>
          obtain ⟨_, _, values, each, rfl⟩ := evaluate_array_eq_ok_iff.mp evaluated
          apply Value.isFinite_list_iff.mpr
          rw [List.forall_mem_map]
          exact forall_mem_of_forall₂ each finite
      | typeless arguments =>
          obtain ⟨members, each, rfl⟩ := evaluate_typeless_eq_ok_iff.mp evaluated
          apply Member.isFinite_assemble
          refine forall_mem_of_forall₂ each fun argument inside member means => ?_
          exact finite _ (List.mem_map_of_mem inside) _ means.2.2
      | tuple values =>
          obtain ⟨results, each, rfl⟩ := evaluate_tuple_eq_ok_iff.mp evaluated
          apply Member.isFinite_assemble
          rw [List.forall_mem_map]
          exact forall_mem_of_forall₂ each finite
      | typed fields values =>
          obtain ⟨results, each, members, declares, rfl⟩ := evaluate_typed_eq_ok_iff.mp evaluated
          apply Member.isFinite_assemble
          refine forall_mem_of_forall₂ declares fun pair inside member means => ?_
          rw [means.2.2]
          exact forall_mem_of_forall₂ each finite _ (List.of_mem_zip inside).2
      | parenthesized inner => cases evaluated
      | path segments => cases evaluated
      | parameter name => cases evaluated

end ParamCodec
