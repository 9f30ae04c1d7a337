import ParamCodec.Proofs.Decimal.Rounding
import ParamCodec.Proofs.Decimal.Spelling

namespace ParamCodec

namespace Grammar.Number

/-- What stands around the point of a number literal. -/
theorem IsPlaces.mantissa {whole places : Text} (isPlaces : IsPlaces whole places)
    (stands : whole ≠ [] ∨ places ≠ []) :
    ∃ fraction, Numeral.Mantissa (whole ++ places) whole fraction ∧
      fraction.all Char.isDigit = true ∧ whole ++ fraction ≠ [] := by
  rcases isPlaces with rfl | ⟨digits, rfl, all, someDigit⟩
  · have someWhole := stands.resolve_right (not_not.mpr rfl)
    rw [List.append_nil]
    exact ⟨[], .plain, rfl, by simpa using someWhole⟩
  · refine ⟨digits, .pointed, all, fun none => ?_⟩
    obtain ⟨rfl, rfl⟩ := List.append_eq_nil_iff.mp none
    exact someDigit.elim (absurd rfl) (absurd rfl)

/-- The power of a number literal has an exponent. -/
theorem IsPower.exponent {power : Text} (isPower : IsPower power) :
    ∃ exponent, Numeral.Power power exponent := by
  rcases isPower with rfl | ⟨mark, sign, digits, rfl, marked, signed, stands, all⟩
  · exact ⟨0, .none⟩
  · exact ⟨_, .written marked signed stands all⟩

/-- The text of a float is a decimal numeral behind a sign. -/
theorem Lexeme.spells {text : Text} (form : Lexeme text (.float text)) :
    ∃ sign body parts, text = sign ++ body ∧ IsSign sign ∧ Numeral.Spells body parts := by
  generalize same : Literal.float text = value at form
  cases form with
  | hexadecimal _ _ _ _ => cases same
  | @decimal sign whole places power signed all stands isPlaces isPower =>
      obtain ⟨fraction, mantissa, fractionAll, someDigit⟩ := isPlaces.mantissa stands
      obtain ⟨exponent, scales⟩ := isPower.exponent
      refine ⟨sign, whole ++ places ++ power, ⟨whole, fraction, exponent⟩, by simp, signed, ?_⟩
      refine ⟨⟨whole ++ places, power, rfl, mantissa, scales⟩, someDigit, ?_⟩
      rw [List.all_append, all, fractionAll]
      rfl

end Grammar.Number

/-- A digit has no upper case. -/
theorem toUpper_of_isDigit {letter : Char} (digit : letter.isDigit = true) :
    letter.toUpper = letter := by
  have range : letter.toNat ≤ 57 := (Char.isDigit_iff_toNat.mp digit).2
  unfold Char.toUpper
  rw [dif_neg]
  rintro ⟨least, _⟩
  exact absurd (range.trans_lt (by decide : 57 < 97)) (Nat.not_lt.mpr least)

/-- What starts like the body of a number is none of the words for what is not finite. -/
theorem sameWord_ofNumber {letter initial : Char} (tail more : Text)
    (first : letter.isDigit = true ∨ letter = '.') (isInitial : initial = 'i' ∨ initial = 'n') :
    Text.sameWord (letter :: tail) (initial :: more) = false := by
  rw [Text.sameWord, beq_eq_false_iff_ne]
  intro same
  have upper : letter.toUpper = initial.toUpper := (List.cons_eq_cons.mp same).1
  rcases first with digit | rfl
  · rw [toUpper_of_isDigit digit] at upper
    rw [upper] at digit
    rcases isInitial with rfl | rfl <;> cases digit
  · rcases isInitial with rfl | rfl <;> cases upper

namespace Numeral

/-- A numeral starts with a digit or a point. -/
theorem Spells.starts {text : Text} {parts : Parts} (spells : Spells text parts) :
    ∃ letter tail, text = letter :: tail ∧ (letter.isDigit = true ∨ letter = '.') := by
  obtain ⟨whole, fraction, exponent⟩ := parts
  obtain ⟨⟨mantissa, power, rfl, form, _⟩, stands, all⟩ := spells
  cases whole with
  | nil =>
      cases form with
      | plain => exact absurd rfl stands
      | pointed => exact ⟨'.', _, rfl, .inr rfl⟩
  | cons digit whole =>
      rw [List.cons_append, List.all_cons, Bool.and_eq_true] at all
      cases form with
      | plain => exact ⟨digit, _, rfl, .inl all.1⟩
      | pointed => exact ⟨digit, _, rfl, .inl all.1⟩

/-- A decimal numeral behind a sign is read as the nearest number. -/
theorem float_of_spells {sign body : Text} {parts : Parts} (isSign : Grammar.Number.IsSign sign)
    (spells : Spells body parts) :
    float (sign ++ body) = .ok (Binary64.ofDecimal (sign == ['-']) parts.digits parts.scale) := by
  have split := Grammar.Number.splitSign_append isSign spells.unsigned
  have read := parts?_eq_some_iff.mpr spells
  obtain ⟨letter, tail, rfl, first⟩ := spells.starts
  have inf : Text.sameWord (letter :: tail) "inf".toList = false :=
    sameWord_ofNumber tail _ first (.inl rfl)
  have infinity : Text.sameWord (letter :: tail) "infinity".toList = false :=
    sameWord_ofNumber tail _ first (.inl rfl)
  have nan : Text.sameWord (letter :: tail) "nan".toList = false :=
    sameWord_ofNumber tail _ first (.inr rfl)
  have stands : (sign ++ letter :: tail).isEmpty = false := by simp
  simp only [float, split, inf, infinity, nan, stands, read, Bool.or_false, Bool.false_eq_true,
    if_false]

end Numeral

end ParamCodec
