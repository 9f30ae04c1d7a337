import ParamCodec.Binding.Parameters
import ParamCodec.Proofs.Grammar.Overlap

namespace ParamCodec

open Grammar

/-- Up to blanks and comments the code is the name. -/
def IsNameBetweenTrivia (code name : Text) : Prop :=
  ∃ before after, code = before ++ name ++ after ∧ Trivia (name ++ after) before ∧ Trivia [] after

/-- A code that is both a type and an expression is a name, and evaluation refuses it. -/
theorem name_of_both {code : Text} {fragment : TypeFragment} {value : Expression}
    (typed : parseType code = .ok fragment) (read : parseExpression code = .ok value) :
    ∃ name, IsNameBetweenTrivia code name ∧ isWord name = true ∧ isReserved name = false ∧
      fragment = .named ⟨name, false⟩ none ∧ value = .path [⟨name, false⟩] ∧
        value.evaluate = .error (.unsupported value) := by
  obtain ⟨rest, first, ended⟩ := whole_eq_ok_iff.mp (parseType_eq_ok_iff.mp typed)
  obtain ⟨left, second, endedValue⟩ := whole_eq_ok_iff.mp (parseExpression_eq_ok_iff.mp read)
  obtain ⟨start, name, skipped, head, free, rfl, rfl⟩ := word_of_both first ended second endedValue
  obtain ⟨rfl, isName, _⟩ := word_eq_ok_iff.mp head
  obtain ⟨_, before, whole, trivia⟩ := skipTrivia_eq_ok_iff.mp skipped
  obtain ⟨_, after, same, behind⟩ := skipTrivia_eq_ok_iff.mp endedValue
  rw [List.append_nil] at same
  subst same
  refine ⟨name, ⟨before, left, ?_, trivia, behind⟩, isName, free, rfl, rfl, ?_⟩
  · rw [whole, List.append_assoc]
  · rfl

/-- What is told does not change the result. -/
theorem concluded_result (first : Text) (result : Except Error TypedValue) :
    (Binding.concluded first result).result = result := by
  cases result <;> rfl

/-- A code that has a typed value as a literal was read as an expression and evaluated. -/
theorem literal_result_eq_ok {code : Text} {typed : TypedValue}
    (result : (Binding.literal code).result = .ok typed) :
    ∃ value, parseExpression code = .ok value ∧ value.evaluate = .ok typed := by
  unfold Binding.literal at result
  split at result
  · next value read =>
    rw [concluded_result] at result
    exact ⟨value, read, result⟩
  · cases result

/-- Permitting types changes no literal, since the two grammars share nothing but single names. -/
theorem parameter_literal_of_permitted (code : Text) :
    (∀ typed, (Binding.parameter false code).result = .ok typed →
      (∃ error, parseType code = .error error) ∧
        (Binding.parameter true code).result = .ok typed) ∧
    (∀ fragment value, parseType code = .ok fragment → parseExpression code = .ok value →
      ∃ name, IsNameBetweenTrivia code name ∧ isWord name = true ∧ isReserved name = false ∧
        fragment = .named ⟨name, false⟩ none ∧ value = .path [⟨name, false⟩] ∧
          value.evaluate = .error (.unsupported value)) := by
  constructor
  · intro typed result
    have literal : (Binding.literal code).result = .ok typed := result
    obtain ⟨value, read, evaluated⟩ := literal_result_eq_ok literal
    cases parsed : parseType code with
    | ok fragment =>
        obtain ⟨_, _, _, _, _, _, refused⟩ := name_of_both parsed read
        cases refused.symm.trans evaluated
    | error error =>
        refine ⟨⟨error, rfl⟩, ?_⟩
        rw [Binding.parameter, if_pos rfl, parsed]
        exact literal
  · intro fragment value typed read
    exact name_of_both typed read

/-- A date stays a date, and its keyword alone is a name on both sides. -/
theorem parameter_literal_of_permitted_date :
    (Binding.parameter true "DATE '2020-01-01'".toList).result =
        .ok ⟨.scalar .date, .string "2020-01-01".toList⟩ ∧
      ∃ name, IsNameBetweenTrivia "/* d */ Date # x".toList name ∧ isWord name = true ∧
        isReserved name = false ∧
        TypeFragment.named ⟨"Date".toList, false⟩ none = .named ⟨name, false⟩ none ∧
        Expression.path [⟨"Date".toList, false⟩] = .path [⟨name, false⟩] ∧
        (Expression.path [⟨"Date".toList, false⟩]).evaluate =
          .error (.unsupported (.path [⟨"Date".toList, false⟩])) := by
  constructor
  · have result : (Binding.parameter false "DATE '2020-01-01'".toList).result =
        .ok ⟨.scalar .date, .string "2020-01-01".toList⟩ := eq_ok_of_toOption (by decide +kernel)
    exact ((parameter_literal_of_permitted _).1 _ result).2
  · have typed : parseType "/* d */ Date # x".toList = .ok (.named ⟨"Date".toList, false⟩ none) :=
      eq_ok_of_toOption (by decide +kernel)
    have read : parseExpression "/* d */ Date # x".toList = .ok (.path [⟨"Date".toList, false⟩]) :=
      eq_ok_of_toOption (by decide +kernel)
    exact (parameter_literal_of_permitted _).2 _ _ typed read

end ParamCodec
