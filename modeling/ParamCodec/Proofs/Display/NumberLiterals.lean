import ParamCodec.Proofs.Binding.Finite
import ParamCodec.Proofs.Display.Evaluated

namespace ParamCodec

open Grammar Numeral

/-- The text of an integer literal is a sign and digits of its base, which is ten or sixteen. -/
theorem Grammar.Number.Spelling.integerDigits {lexeme text : Text} {radix : Nat}
    (form : Spelling lexeme (.integer text radix)) :
    0 < radix ∧ ∃ sign digits, text = sign ++ digits ∧ IsSign sign ∧ EndsRun isSignMark digits ∧
      digits ≠ [] ∧ ∀ letter ∈ digits, (Text.digitValue? radix letter).isSome = true := by
  cases form with
  | @hexadecimal sign digits mark signed marked stands all =>
      refine ⟨by decide, sign, digits, rfl, signed, ?_, stands, List.all_eq_true.mp all⟩
      intro letter found
      have digit := List.all_eq_true.mp all letter (List.mem_of_mem_head? found)
      exact isSignMark_of_isWordPart (isWordPart_of_isHexDigit digit)
  | @integer sign digits signed stands all =>
      refine ⟨by decide, sign, digits, rfl, signed, digits_unsigned all, stands, ?_⟩
      intro letter member
      rw [Text.digitValue?_of_isDigit (List.all_eq_true.mp all letter member)]
      rfl

namespace Literal

variable {source text : Text} {radix : Nat}

/-- What an integer literal evaluates to depends on its number only, up to the literal in an error. -/
theorem evaluate_integer (spells : SpellsNumber source (.integer text radix)) :
    (integer text radix).evaluate =
      if denoted radix text < -2 ^ 63 then .error (.invalidNumeral (integer text radix) .tooSmall)
      else if 2 ^ 63 ≤ denoted radix text then
        .error (.invalidNumeral (integer text radix) .tooLarge)
      else .ok ⟨.scalar .int64, .string (Text.signedDecimal (denoted radix text))⟩ := by
  obtain ⟨_, _, _, _, _, _, form⟩ := spells
  obtain ⟨positive, sign, digits, rfl, signed, unsigned, stands, valid⟩ := form.integerDigits
  rw [evaluate.eq_def]
  dsimp only
  rw [integer_eq_ite positive signed unsigned stands valid]
  split_ifs <;> rfl

/-- A float literal is the nearest number to the decimal numeral that it is written as, unless this is
out of range. -/
theorem evaluate_float (lexical : (Expression.literal (.float text)).Lexical) :
    ∃ sign body parts, text = sign ++ body ∧ Number.IsSign sign ∧ Spells body parts ∧
      (float text).evaluate =
        if (Binary64.ofDecimal (sign == ['-']) parts.digits parts.scale).isInfinite then
          .error (.invalidNumeral (float text) .outOfRange)
        else .ok ⟨.scalar .float64, .number (Binary64.ofDecimal (sign == ['-']) parts.digits parts.scale)⟩ := by
  obtain ⟨sign, body, parts, rfl, signed, spells⟩ := (lexical text .self).spells
  refine ⟨sign, body, parts, rfl, signed, spells, ?_⟩
  rw [evaluate.eq_def]
  dsimp only
  rw [float_of_spells signed spells]

/-- An integer literal has a typed value exactly when its number has 64 bits. -/
theorem evaluate_integer_succeeds (spells : SpellsNumber source (.integer text radix)) :
    (∃ typed, (integer text radix).evaluate = .ok typed) ↔
      -2 ^ 63 ≤ denoted radix text ∧ denoted radix text ≤ 2 ^ 63 - 1 := by
  rw [evaluate_integer spells]
  split_ifs with small large
  · exact iff_of_false nofun (by omega)
  · exact iff_of_false nofun (by omega)
  · exact iff_of_true ⟨_, rfl⟩ (by omega)

/-- An integer that evaluates is the decimal numeral of what it denotes. -/
theorem integer_value {typed : TypedValue} (spells : SpellsNumber source (.integer text radix))
    (evaluated : (integer text radix).evaluate = .ok typed) :
    typed = ⟨.scalar .int64, .string (Text.signedDecimal (denoted radix text))⟩ := by
  rw [evaluate_integer spells] at evaluated
  split_ifs at evaluated
  exact (Except.ok.inj evaluated).symm

/-- An integer literal that has no typed value is called too large or too small. -/
theorem evaluate_integer_fails {error : Error} (spells : SpellsNumber source (.integer text radix))
    (fails : (integer text radix).evaluate = .error error) :
    ∃ fault, error = .invalidNumeral (integer text radix) fault ∧
      (0 < denoted radix text ∧ fault = .tooLarge ∨ denoted radix text < 0 ∧ fault = .tooSmall) := by
  rw [evaluate_integer spells] at fails
  split_ifs at fails with small large
  · cases fails
    exact ⟨.tooSmall, rfl, .inr ⟨by omega, rfl⟩⟩
  · cases fails
    exact ⟨.tooLarge, rfl, .inl ⟨by omega, rfl⟩⟩

/-- Two spellings of one integer have the same typed value or fail for the same reason. -/
theorem evaluate_integer_congr {other otherText : Text} {otherRadix : Nat}
    (spells : SpellsNumber source (.integer text radix))
    (otherSpells : SpellsNumber other (.integer otherText otherRadix))
    (same : denoted otherRadix otherText = denoted radix text) :
    (∃ typed, (integer text radix).evaluate = .ok typed ∧
        (integer otherText otherRadix).evaluate = .ok typed) ∨
      ∃ fault, (integer text radix).evaluate = .error (.invalidNumeral (integer text radix) fault) ∧
        (integer otherText otherRadix).evaluate =
          .error (.invalidNumeral (integer otherText otherRadix) fault) := by
  rw [evaluate_integer spells, evaluate_integer otherSpells, same]
  split_ifs
  · exact .inr ⟨_, rfl, rfl⟩
  · exact .inr ⟨_, rfl, rfl⟩
  · exact .inl ⟨_, rfl, rfl⟩

end Literal

namespace Expression

/-- Number literals are worth the numbers that they denote. The value of an integer literal is its
decimal numeral, which is also its text, unless the number does not fit 64 bits; all spellings of one
number come to the same. A float literal is the nearest number to its numeral unless it is out of range. -/
theorem evaluate_numberLiteral (source : Text) :
    (∀ text radix, parseExpression source = .ok (.literal (.integer text radix)) →
      ((∃ typed, (literal (.integer text radix)).evaluate = .ok typed) ↔
        -2 ^ 63 ≤ denoted radix text ∧ denoted radix text ≤ 2 ^ 63 - 1) ∧
      (∀ typed, (literal (.integer text radix)).evaluate = .ok typed →
        typed = ⟨.scalar .int64, .string (Text.signedDecimal (denoted radix text))⟩ ∧
          Display.typed typed = .ok (Text.signedDecimal (denoted radix text))) ∧
      (∀ error, (literal (.integer text radix)).evaluate = .error error →
        ∃ fault, error = .invalidNumeral (.integer text radix) fault ∧
          (0 < denoted radix text ∧
              fault.message = "number too large to fit in target type".toList ∨
            denoted radix text < 0 ∧
              fault.message = "number too small to fit in target type".toList)) ∧
      ∀ other otherText otherRadix,
        parseExpression other = .ok (.literal (.integer otherText otherRadix)) →
        denoted otherRadix otherText = denoted radix text →
        (∃ typed, (literal (.integer text radix)).evaluate = .ok typed ∧
            (literal (.integer otherText otherRadix)).evaluate = .ok typed) ∨
          ∃ fault, (literal (.integer text radix)).evaluate =
              .error (.invalidNumeral (.integer text radix) fault) ∧
            (literal (.integer otherText otherRadix)).evaluate =
              .error (.invalidNumeral (.integer otherText otherRadix) fault)) ∧
    ∀ text, parseExpression source = .ok (.literal (.float text)) →
      ∃ sign body parts, text = sign ++ body ∧ Number.IsSign sign ∧ Spells body parts ∧
        let number := Binary64.ofDecimal (sign == ['-']) parts.digits parts.scale
        (number.isInfinite = false ∧
            (literal (.float text)).evaluate = .ok ⟨.scalar .float64, .number number⟩) ∨
          (number.isInfinite = true ∧
            ∃ fault, (literal (.float text)).evaluate =
                .error (.invalidNumeral (.float text) fault) ∧
              fault.message = "value out of range".toList) := by
  constructor
  · intro text radix parsed
    have spells := spellsNumber_of_parseExpression parsed rfl
    simp only [evaluate_literal]
    refine ⟨Literal.evaluate_integer_succeeds spells, fun typed evaluated => ?_,
      fun error fails => ?_, fun other otherText otherRadix otherParsed same => ?_⟩
    · exact ⟨Literal.integer_value spells evaluated, Literal.typed_integer evaluated⟩
    · obtain ⟨fault, rfl, reason⟩ := Literal.evaluate_integer_fails spells fails
      refine ⟨fault, rfl, reason.imp ?_ ?_⟩
      · exact fun ⟨positive, large⟩ => ⟨positive, congrArg NumeralFault.message large⟩
      · exact fun ⟨negative, small⟩ => ⟨negative, congrArg NumeralFault.message small⟩
    · exact Literal.evaluate_integer_congr spells (spellsNumber_of_parseExpression otherParsed rfl) same
  · intro text parsed
    simp only [evaluate_literal]
    obtain ⟨sign, body, parts, written, signed, spells, evaluated⟩ :=
      Literal.evaluate_float (lexical_of_parseExpression parsed)
    refine ⟨sign, body, parts, written, signed, spells, ?_⟩
    rw [evaluated]
    split_ifs with infinite
    · exact .inr ⟨infinite, .outOfRange, rfl, rfl⟩
    · exact .inl ⟨Bool.eq_false_iff.mpr infinite, rfl⟩

/-- The least number of 64 bits in both bases, the first one above them, and a float of 400 places. -/
theorem evaluate_numberLiteral_least :
    (parseExpression "-0x8000000000000000".toList =
        .ok (.literal (.integer "-8000000000000000".toList 16)) ∧
      parseExpression "/**/ -0009223372036854775808".toList =
        .ok (.literal (.integer "-0009223372036854775808".toList 10)) ∧
      (∃ typed, (literal (.integer "-8000000000000000".toList 16)).evaluate = .ok typed) ∧
      ∃ typed, (literal (.integer "-8000000000000000".toList 16)).evaluate = .ok typed ∧
        (literal (.integer "-0009223372036854775808".toList 10)).evaluate = .ok typed ∧
        typed = ⟨.scalar .int64, .string "-9223372036854775808".toList⟩ ∧
        Display.typed typed = .ok "-9223372036854775808".toList) ∧
    (parseExpression "9223372036854775808".toList =
        .ok (.literal (.integer "9223372036854775808".toList 10)) ∧
      ∃ fault, (literal (.integer "9223372036854775808".toList 10)).evaluate =
          .error (.invalidNumeral (.integer "9223372036854775808".toList 10) fault) ∧
        fault.message = "number too large to fit in target type".toList) ∧
    parseExpression "-1.e400".toList = .ok (.literal (.float "-1.e400".toList)) ∧
      ∃ fault, (literal (.float "-1.e400".toList)).evaluate =
          .error (.invalidNumeral (.float "-1.e400".toList) fault) ∧
        fault.message = "value out of range".toList := by
  have hexadecimal : parseExpression "-0x8000000000000000".toList =
      .ok (.literal (.integer "-8000000000000000".toList 16)) := eq_ok_of_toOption (by decide +kernel)
  have decimal : parseExpression "/**/ -0009223372036854775808".toList =
      .ok (.literal (.integer "-0009223372036854775808".toList 10)) :=
    eq_ok_of_toOption (by decide +kernel)
  have large : parseExpression "9223372036854775808".toList =
      .ok (.literal (.integer "9223372036854775808".toList 10)) := eq_ok_of_toOption (by decide +kernel)
  have places : parseExpression "-1.e400".toList = .ok (.literal (.float "-1.e400".toList)) :=
    eq_ok_of_toOption (by decide +kernel)
  obtain ⟨succeeds, value, _, alike⟩ := (evaluate_numberLiteral _).1 _ _ hexadecimal
  have within := succeeds.mpr (by decide +kernel)
  -- Each part follows from the iff: the evaluation itself is not computed.
  refine ⟨⟨hexadecimal, decimal, within, ?_⟩, ⟨large, ?_⟩, places, ?_⟩
  · rcases alike _ _ _ decimal (by decide +kernel) with ⟨typed, first, second⟩ | ⟨fault, fails, _⟩
    · exact ⟨typed, first, second, value typed first⟩
    · rw [fails] at within
      exact nomatch within
  · obtain ⟨succeeds, _, reasons, _⟩ := (evaluate_numberLiteral _).1 _ _ large
    cases outcome : (literal (.integer "9223372036854775808".toList 10)).evaluate with
    | ok typed => exact absurd (succeeds.mp ⟨typed, outcome⟩).2 (by decide +kernel)
    | error error =>
        obtain ⟨fault, rfl, ⟨_, reason⟩ | ⟨negative, _⟩⟩ := reasons error outcome
        · exact ⟨fault, rfl, reason⟩
        · exact absurd negative (by decide +kernel)
  · have refused : (literal (.float "-1.e400".toList)).evaluate.toOption = none := by decide +kernel
    obtain ⟨_, _, _, _, _, _, ⟨_, succeeds⟩ | ⟨_, fails⟩⟩ := (evaluate_numberLiteral _).2 _ places
    · rw [succeeds] at refused
      cases refused
    · exact fails

end Expression

end ParamCodec
