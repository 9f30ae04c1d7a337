import ParamCodec.Grammar.Fragment
import ParamCodec.Proofs.Grammar.Lists

namespace ParamCodec

namespace Grammar

variable {α : Type}

/-- A source is read as a whole when nothing but trivia is left. -/
theorem whole_eq_ok_iff {reader : Reader α} {source : Text} {value : α} :
    whole reader source = .ok value ↔
      ∃ rest, reader source = .ok (value, rest) ∧ skipTrivia rest = .ok [] := by
  constructor
  · intro read
    obtain ⟨⟨found, after⟩, first, read⟩ := bind_eq_ok_iff.mp read
    obtain ⟨rest, skipped, read⟩ := bind_eq_ok_iff.mp read
    split at read
    · next empty =>
      cases read
      rw [List.isEmpty_iff.mp empty] at skipped
      exact ⟨after, first, skipped⟩
    · cases read
  · rintro ⟨rest, read, skipped⟩
    simp [whole, read, skipped]

/-- What embeds before the end of a source is read as a whole. -/
theorem Embeds.whole {ends : Text → Prop} {reader : Reader α} {text : Text} {value : α}
    (embeds : Embeds ends reader text value) (ended : ends []) : whole reader text = .ok value := by
  obtain ⟨rest, read, skipped⟩ := embeds [] ended
  rw [List.append_nil] at read
  exact whole_eq_ok_iff.mpr ⟨rest, read, skipped⟩

theorem endsItem_nil : EndsItem [] := fun _ found => nomatch found

/-- Changing the error does not change the results. -/
theorem mapError_eq_ok_iff {ε δ : Type} {result : Except ε α} {value : α} {change : ε → δ} :
    result.mapError change = .ok value ↔ result = .ok value := by
  cases result <;> simp [Except.mapError]

/-- A changed error comes from an error that is changed to it. -/
theorem mapError_eq_error_iff {ε δ α : Type} {result : Except ε α} {error : δ} {change : ε → δ} :
    result.mapError change = .error error ↔ ∃ cause, result = .error cause ∧ change cause = error := by
  cases result <;> simp [Except.mapError]

/-- The result of a closed source can be decided where results have no decidable equality. -/
theorem eq_ok_of_toOption {ε : Type} {result : Except ε α} {value : α}
    (same : result.toOption = some value) : result = .ok value := by
  cases result with
  | error failure => cases same
  | ok found => exact congrArg Except.ok (Option.some.inj same)

/-- The error of a closed source can be decided where results have no decidable equality. -/
theorem eq_error_of_match {ε α : Type} {result : Except ε α} {error : ε}
    (same : (match result with | .ok _ => none | .error found => some found) = some error) :
    result = .error error := by
  cases result with
  | ok _ => cases same
  | error found => exact congrArg Except.error (Option.some.inj same)

end Grammar

/-- A type is parsed when the whole source is one. -/
theorem parseType_eq_ok_iff {source : Text} {fragment : TypeFragment} :
    parseType source = .ok fragment ↔ Grammar.whole Grammar.type source = .ok fragment :=
  Grammar.mapError_eq_ok_iff

/-- An expression is parsed when the whole source is one. -/
theorem parseExpression_eq_ok_iff {source : Text} {expression : Expression} :
    parseExpression source = .ok expression ↔
      Grammar.whole Grammar.expression source = .ok expression :=
  Grammar.mapError_eq_ok_iff

end ParamCodec
