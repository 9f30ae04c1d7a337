import ParamCodec.Proofs.Binding.Permission
import ParamCodec.Proofs.Grammar.ExpressionTexts
import ParamCodec.Proofs.Grammar.Padding

namespace ParamCodec

open Grammar

/-- Errors of one kind, that differ only where a fragment is malformed. -/
def Error.SameKind (error other : Error) : Prop :=
  error.code = other.code ∧ (error.code.isSyntaxError = false → error = other)

/-- Every error is of its own kind. -/
theorem Error.SameKind.rfl {error : Error} : error.SameKind error := ⟨.refl _, fun _ => .refl _⟩

/-- Syntax errors of one kind of fragment are of the same kind, wherever they are located. -/
theorem located_sameKind (kind : FragmentKind) (source text : Text) (failure other : Failure) :
    (located kind source failure).SameKind (located kind text other) := by
  cases kind with
  | type => exact ⟨rfl, fun noSyntax => nomatch noSyntax⟩
  | literal => exact ⟨rfl, fun noSyntax => nomatch noSyntax⟩

/-- Equal results are alike. -/
theorem alike_of_eq {α : Type} {first other : Except Error α} (same : first = other) :
    Alike Error.SameKind Eq first other := by
  subst same
  cases first with
  | ok _ => exact .ok rfl
  | error _ => exact .error .rfl

section Between

variable {before after : Text} (blankBefore : before.all Text.isBlank = true)
  (blankAfter : after.all Text.isBlank = true) (code : Text)

include blankBefore blankAfter

/-- Blanks around a type do not change whether it parses or to what. -/
theorem parseType_between_blanks :
    Alike Error.SameKind Eq (parseType code) (parseType (before ++ code ++ after)) := by
  have reads := (padded_keepsLiterals blankAfter).type
  have alike := whole_between_blanks type_skipsFirst blankBefore blankAfter reads code
  exact alike.mapError fun _ _ _ => located_sameKind .type _ _ _ _

/-- Blanks around an expression do not change whether it parses or to what. -/
theorem parseExpression_between_blanks :
    Alike Error.SameKind Eq (parseExpression code) (parseExpression (before ++ code ++ after)) := by
  have reads := (padded_keepsLiterals blankAfter).expression
  have alike := whole_between_blanks expression_skipsFirst blankBefore blankAfter reads code
  exact alike.mapError fun _ _ _ => located_sameKind .literal _ _ _ _

/-- Blanks around a literal do not change what it is bound to. -/
theorem literal_between_blanks : Alike Error.SameKind Eq (Binding.literal code).result
    (Binding.literal (before ++ code ++ after)).result := by
  have parsed := parseExpression_between_blanks blankBefore blankAfter code
  unfold Binding.literal
  generalize parseExpression code = first at parsed ⊢
  generalize parseExpression (before ++ code ++ after) = other at parsed ⊢
  cases parsed with
  | ok same =>
      refine alike_of_eq ?_
      rw [same]
      exact (concluded_result _ _).trans (concluded_result _ _).symm
  | error same => exact .error same

/-- Blanks around a parameter do not change what it is bound to, whether types are permitted or not.
-/
theorem parameter_alike_between_blanks (permitTypes : Bool) :
    Alike Error.SameKind Eq (Binding.parameter permitTypes code).result
      (Binding.parameter permitTypes (before ++ code ++ after)).result := by
  have literal := literal_between_blanks blankBefore blankAfter code
  cases permitTypes with
  | false => exact literal
  | true =>
      have parsed := parseType_between_blanks blankBefore blankAfter code
      rw [Binding.parameter, Binding.parameter, if_pos rfl, if_pos rfl]
      generalize parseType code = first at parsed ⊢
      generalize parseType (before ++ code ++ after) = other at parsed ⊢
      cases parsed with
      | ok same =>
          refine alike_of_eq ?_
          rw [same]
          exact (concluded_result _ _).trans (concluded_result _ _).symm
      | error _ => exact literal

end Between

/-- Blanks around a code change neither its typed value nor the kind of its error. -/
theorem parameter_between_blanks (permitTypes : Bool) (before code after : Text)
    (blankBefore : before.all Text.isBlank = true) (blankAfter : after.all Text.isBlank = true) :
    (∀ typed, (Binding.parameter permitTypes (before ++ code ++ after)).result = .ok typed ↔
      (Binding.parameter permitTypes code).result = .ok typed) ∧
    (∀ error other, (Binding.parameter permitTypes (before ++ code ++ after)).result = .error error →
      (Binding.parameter permitTypes code).result = .error other →
      error.code = other.code ∧ (error.code.isSyntaxError = false → error = other)) := by
  have alike := parameter_alike_between_blanks blankBefore blankAfter code permitTypes
  generalize (Binding.parameter permitTypes code).result = result at alike ⊢
  generalize (Binding.parameter permitTypes (before ++ code ++ after)).result = padded at alike ⊢
  cases alike with
  | ok same =>
      subst same
      exact ⟨fun _ => .rfl, fun _ _ failed => nomatch failed⟩
  | error same =>
      refine ⟨fun _ => ⟨nofun, nofun⟩, ?_⟩
      rintro _ _ ⟨⟩ ⟨⟩
      refine ⟨same.1.symm, fun noSyntax => (same.2 ?_).symm⟩
      rw [same.1]
      exact noSyntax

/-- Blanks behind an open comment, and around a path that is no type and no literal. -/
theorem parameter_between_blanks_comment :
    (Binding.parameter true ("\n ".toList ++ "TRUE # yes".toList ++ "\t\u3000".toList)).result =
        .ok ⟨.scalar .bool, .bool true⟩ ∧
      ∀ error, (Binding.parameter false ("\n ".toList ++ "a.b".toList ++ "\t\u3000".toList)).result =
        .error error → error = .unsupported (.path [⟨"a".toList, false⟩, ⟨"b".toList, false⟩]) := by
  have blankBefore : "\n ".toList.all Text.isBlank = true := by decide
  have blankAfter : "\t\u3000".toList.all Text.isBlank = true := by decide
  have constant : (Binding.parameter true "TRUE # yes".toList).result =
      .ok ⟨.scalar .bool, .bool true⟩ := eq_ok_of_toOption (by decide +kernel)
  have path : (Binding.parameter false "a.b".toList).result =
      .error (.unsupported (.path [⟨"a".toList, false⟩, ⟨"b".toList, false⟩])) :=
    eq_error_of_match (by decide +kernel)
  refine ⟨((parameter_between_blanks true _ _ _ blankBefore blankAfter).1 _).mpr constant, ?_⟩
  intro error failed
  obtain ⟨sameCode, same⟩ :=
    (parameter_between_blanks false _ _ _ blankBefore blankAfter).2 _ _ failed path
  exact same (by rw [sameCode]; rfl)

end ParamCodec
