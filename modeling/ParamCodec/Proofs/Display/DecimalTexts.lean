import ParamCodec.Display.Cell
import ParamCodec.Proofs.Decimal.Floats
import ParamCodec.Proofs.Decimal.ReadBack

namespace ParamCodec.Display

open Grammar.Number Numeral

variable {number : Scientific}

/-- The text of a sign is empty or a minus. -/
theorem isSign_signText (negative : Bool) : IsSign (signText negative) := by
  cases negative
  · exact .inl rfl
  · exact .inr (.inr rfl)

/-- The text of a sign is a minus exactly for negative numbers. -/
theorem signText_isMinus (negative : Bool) : (signText negative == ['-']) = negative := by
  cases negative <;> rfl

/-- An exponent is read from its numeral exactly when it has 32 bits. -/
theorem exponent_read (exponent : Int) :
    (integer 10 (Text.signedDecimal exponent)).toOption.filter isInt32 =
      if isInt32 exponent then some exponent else none := by
  cases read : integer 10 (Text.signedDecimal exponent) with
  | ok result =>
      obtain ⟨same, _⟩ := integer_sound read
      rw [denoted_signedDecimal] at same
      rw [same, Except.toOption, Option.filter_some]
  | error fault =>
      have large : isInt32 exponent = false := by
        rw [Bool.eq_false_iff]
        intro small
        simp only [isInt32, Bool.and_eq_true, decide_eq_true_eq] at small
        have above : -2 ^ 63 ≤ exponent := le_trans (by decide) small.1
        have below : exponent < 2 ^ 63 := small.2.trans (by decide)
        rw [integer_signedDecimal above below] at read
        cases read
      rw [large]
      rfl

/-- No sign and no mantissa has the letter in front of the exponent. -/
theorem mantissa_noMark (decimal : number.IsDecimal) (negative : Bool) :
    (signText negative ++ number.mantissa).all noMark = true := by
  obtain ⟨whole, fraction, mantissa, same, _⟩ := Scientific.mantissa_form decimal
  have sign : (signText negative).all noMark = true := by cases negative <;> rfl
  rw [List.all_append, sign, mantissa.noMark (same ▸ decimal.all), Bool.and_self]

/-- A text without marks of exponents holds no `e`. -/
theorem not_mem_of_noMark {text : Text} (free : text.all noMark = true) : 'e' ∉ text :=
  fun member => by cases List.all_eq_true.mp free 'e' member

/-- What is chosen is the positional text, or the digits with a sign and two places for the exponent. -/
theorem chosenText_eq (decimal : number.IsDecimal) (negative : Bool) (positional : Text) :
    chosenText positional (signText negative ++ number.plainExponential) =
      if isInt32 number.exponent && !isModerate number.exponent then
        signText negative ++ number.exponential 2
      else positional := by
  have split : Text.splitAtFirst? 'e' (signText negative ++ number.plainExponential) =
      some (signText negative ++ number.mantissa, Text.signedDecimal number.exponent) :=
    Grammar.splitAtFirst?_eq_some_iff.mpr
      ⟨(List.append_assoc ..).symm, not_mem_of_noMark (mantissa_noMark decimal negative)⟩
  rw [chosenText, split]
  dsimp only
  rw [exponent_read]
  cases isInt32 number.exponent
  · rfl
  · rw [if_pos rfl]
    dsimp only
    cases isModerate number.exponent
    · exact List.append_assoc ..
    · rfl

/-- A sign and a mantissa with or without an exponent are a numeral for the signed number. -/
theorem denotes_of_spells (negative : Bool) {body : Text} {parts : Parts} (spells : Spells body parts)
    (same : (parts.digits : ℚ) * 10 ^ parts.scale = number.size) :
    Denotes (signText negative ++ body) (signed (signText negative) number.size) :=
  ⟨signText negative, body, parts, rfl, isSign_signText negative, spells, by rw [rational, same]⟩

/-- The text of a finite number spells the digits that are chosen for it. -/
theorem decimalText_spells (format : BinaryFormat) (negative : Bool) (magnitude : Magnitude) :
    ∃ body parts, decimalText format negative magnitude = signText negative ++ body ∧ Spells body parts ∧
      (parts.digits : ℚ) * 10 ^ parts.scale = (Shortest.ofMagnitude format .upper magnitude).size := by
  have decimal := Shortest.isDecimal_ofMagnitude format .upper magnitude
  unfold decimalText
  dsimp only
  rw [chosenText_eq decimal]
  split_ifs
  · obtain ⟨parts, spells, same⟩ := Scientific.exponential_spells decimal 2
    exact ⟨_, parts, rfl, spells, same⟩
  · obtain ⟨parts, spells, same⟩ := Scientific.positional_spells decimal
    exact ⟨_, parts, rfl, spells, same⟩

/-- Exponents of 32 bits decide between the two texts. -/
theorem chosenText_eq_of_small (decimal : number.IsDecimal) (least : -2 ^ 31 ≤ number.exponent)
    (greatest : number.exponent < 2 ^ 31) (negative : Bool) (positional : Text) :
    chosenText positional (signText negative ++ number.plainExponential) =
      if -4 ≤ number.exponent ∧ number.exponent < 6 then positional
      else signText negative ++ number.exponential 2 := by
  have small : isInt32 number.exponent = true := by
    rw [isInt32, Bool.and_eq_true, decide_eq_true_eq, decide_eq_true_eq]
    exact ⟨least, greatest⟩
  have moderate : isModerate number.exponent = true ↔ -4 ≤ number.exponent ∧ number.exponent < 6 := by
    rw [isModerate, Bool.and_eq_true, decide_eq_true_eq, decide_eq_true_eq]
  rw [chosenText_eq decimal, small]
  by_cases inside : -4 ≤ number.exponent ∧ number.exponent < 6
  · rw [if_pos inside, moderate.mpr inside]
    rfl
  · rw [if_neg inside, Bool.eq_false_iff.mpr (moderate.not.mpr inside)]
    rfl

/-- An exponent is written with a sign and at least two digits. -/
theorem exponential_form (number : Scientific) (negative : Bool) :
    ∃ digits, signText negative ++ number.exponential 2 = signText negative ++ number.mantissa ++
        'e' :: (if number.exponent < 0 then '-' else '+') :: digits ∧
      2 ≤ digits.length ∧ digits.all Char.isDigit = true ∧
      Text.decimalValue digits = number.exponent.natAbs := by
  refine ⟨Text.padLeft 2 (Text.decimal number.exponent.natAbs), (List.append_assoc ..).symm, ?_,
    Text.padLeft_isDigit _ _, Text.decimalValue_padLeft _ _⟩
  rw [Text.padLeft, List.length_append, List.length_replicate]
  omega

/-- A finite number stands for a magnitude. -/
theorem datum_of_isFinite {number : Binary64} (finite : number.isFinite = true) :
    ∃ negative magnitude, number.datum = .finite negative magnitude := by
  have ordinary : number.exponentField ≠ 2047 := bne_iff_ne.mp finite
  unfold Binary64.datum
  rw [if_neg ordinary]
  split_ifs
  · exact ⟨_, _, rfl⟩
  · exact ⟨_, _, rfl⟩

/-- A finite number of 64 bits is shown as one of the two texts of its digits, and read from it. -/
theorem float64_chosen {number : Binary64} (finite : number.isFinite = true) :
    ∃ (negative : Bool) (decimal : Scientific), decimal.IsDecimal ∧
      -2 ^ 31 ≤ decimal.exponent ∧ decimal.exponent < 2 ^ 31 ∧
      let chosen := chosenText (signText negative ++ decimal.positional [])
        (signText negative ++ decimal.plainExponential)
      value (.scalar .float64) (.number number) = .ok chosen ∧ float chosen = .ok number := by
  obtain ⟨negative, magnitude, datum⟩ := datum_of_isFinite finite
  have form := Binary64.isCanonical_of_datum datum
  obtain ⟨least, greatest⟩ := Binary64.exponent_shortest form .upper
  obtain ⟨body, parts, text, spells, same⟩ := decimalText_spells binary64 negative magnitude
  have shown : floatText false number = decimalText binary64 negative magnitude := by
    rw [floatText, datum]
    rfl
  have readBack : float (decimalText binary64 negative magnitude) = .ok number := by
    rw [text, float_of_spells (isSign_signText negative) spells, signText_isMinus,
      Binary64.ofDecimal_of_shortest datum same]
  exact ⟨negative, _, Shortest.isDecimal_ofMagnitude binary64 .upper magnitude, by omega, by omega,
    congrArg Except.ok shown, readBack⟩

/-- Of a positional text and a text with an exponent of 32 bits for one decimal, a text for the same number is
chosen. It is the positional one exactly when the exponent is moderate, and else the mantissa, `e`, a sign and
at least two digits of the exponent. For a finite number of 64 bits the choice is between two such texts, and
what is shown is read as that number. -/
theorem chosenText_keepsNumber :
    (∀ (negative : Bool) (decimal : Scientific) (positional : Text) (number : ℚ), decimal.IsDecimal →
      -2 ^ 31 ≤ decimal.exponent → decimal.exponent < 2 ^ 31 →
      positional.all noMark = true → Denotes positional number →
      Denotes (signText negative ++ decimal.plainExponential) number →
      let chosen := chosenText positional (signText negative ++ decimal.plainExponential)
      Denotes chosen number ∧
        (chosen = positional ↔ -4 ≤ decimal.exponent ∧ decimal.exponent < 6) ∧
        (¬ (-4 ≤ decimal.exponent ∧ decimal.exponent < 6) →
          ∃ digits, chosen = signText negative ++ decimal.mantissa ++
              'e' :: (if decimal.exponent < 0 then '-' else '+') :: digits ∧
            2 ≤ digits.length ∧ digits.all Char.isDigit = true ∧
            Text.decimalValue digits = decimal.exponent.natAbs)) ∧
    ∀ number : Binary64, number.isFinite = true →
      ∃ (negative : Bool) (decimal : Scientific), decimal.IsDecimal ∧
        -2 ^ 31 ≤ decimal.exponent ∧ decimal.exponent < 2 ^ 31 ∧
        let chosen := chosenText (signText negative ++ decimal.positional [])
          (signText negative ++ decimal.plainExponential)
        value (.scalar .float64) (.number number) = .ok chosen ∧ float chosen = .ok number := by
  refine ⟨?_, fun number finite => float64_chosen finite⟩
  intro negative decimal positional number form least greatest free denotes again
  dsimp only
  rw [chosenText_eq_of_small form least greatest]
  by_cases moderate : -4 ≤ decimal.exponent ∧ decimal.exponent < 6
  · rw [if_pos moderate]
    exact ⟨denotes, iff_of_true rfl moderate, absurd moderate⟩
  · rw [if_neg moderate]
    -- Both texts with an exponent spell the decimal, so the chosen one is for the same number.
    obtain ⟨_, plain, plainSize⟩ := Scientific.plainExponential_spells form
    obtain ⟨_, spells, size⟩ := Scientific.exponential_spells form 2
    obtain ⟨digits, written, formed⟩ := exponential_form decimal negative
    have same := again.unique (denotes_of_spells negative plain plainSize)
    refine ⟨same ▸ denotes_of_spells negative spells size, iff_of_false ?_ moderate,
      fun _ => ⟨digits, written, formed⟩⟩
    -- The chosen text has the mark of an exponent, the positional one has none.
    rintro rfl
    rw [written] at free
    exact not_mem_of_noMark free (List.mem_append_right _ (List.mem_cons_self ..))

/-- A negative number just outside of the positional ones, and the least number of 64 bits. -/
theorem chosenText_keepsNumber_small :
    (Denotes "-0.000015".toList (-3 / 200000) ∧ Denotes "-1.5e-5".toList (-3 / 200000) ∧
      Denotes (chosenText "-0.000015".toList "-1.5e-5".toList) (-3 / 200000) ∧
      chosenText "-0.000015".toList "-1.5e-5".toList ≠ "-0.000015".toList ∧
      ∃ digits, chosenText "-0.000015".toList "-1.5e-5".toList = "-1.5e-".toList ++ digits ∧
        2 ≤ digits.length ∧ digits.all Char.isDigit = true ∧ Text.decimalValue digits = 5) ∧
    (⟨1⟩ : Binary64).isFinite = true ∧
      ∃ (negative : Bool) (decimal : Scientific), decimal.IsDecimal ∧
        -2 ^ 31 ≤ decimal.exponent ∧ decimal.exponent < 2 ^ 31 ∧
        let chosen := chosenText (signText negative ++ decimal.positional [])
          (signText negative ++ decimal.plainExponential)
        value (.scalar .float64) (.number ⟨1⟩) = .ok chosen ∧ float chosen = .ok ⟨1⟩ := by
  obtain ⟨keeps, readBack⟩ := chosenText_keepsNumber
  have minus : IsSign ['-'] := .inr (.inr rfl)
  have positional : Denotes "-0.000015".toList (-3 / 200000) := by
    refine ⟨['-'], "0.000015".toList, ⟨['0'], ['0', '0', '0', '0', '1', '5'], 0⟩, rfl, minus,
      ⟨⟨['0'] ++ '.' :: ['0', '0', '0', '0', '1', '5'], [], rfl, .pointed, .none⟩,
        List.cons_ne_nil _ _, by decide⟩, ?_⟩
    have digits : Text.decimalValue ['0', '0', '0', '0', '0', '1', '5'] = 15 := by decide
    norm_num [rational, signed, Parts.digits, Parts.scale, digits]
  have exponential : Denotes "-1.5e-5".toList (-3 / 200000) := by
    have power : Power ['e', '-', '5'] (-5) := .written (.inl rfl) minus (List.cons_ne_nil '5' []) rfl
    refine ⟨['-'], "1.5e-5".toList, ⟨['1'], ['5'], -5⟩, rfl, minus,
      ⟨⟨_, _, rfl, .pointed, power⟩, List.cons_ne_nil _ _, by decide⟩, ?_⟩
    have digits : Text.decimalValue ['1', '5'] = 15 := by decide
    norm_num [rational, signed, Parts.digits, Parts.scale, digits]
  have decimal : (⟨['1', '5'], -5⟩ : Scientific).IsDecimal := ⟨List.cons_ne_nil _ _, rfl⟩
  obtain ⟨denotes, chosen, written⟩ := keeps true ⟨['1', '5'], -5⟩ "-0.000015".toList (-3 / 200000) decimal
    (by decide) (by decide) (by decide) positional exponential
  exact ⟨⟨positional, exponential, denotes, fun same => absurd (chosen.mp same) (by decide),
    written (by decide)⟩, by decide, readBack ⟨1⟩ (by decide)⟩

example : chosenText "-0.000015".toList "-1.5e-5".toList = "-1.5e-05".toList := by decide

example : floatText false ⟨1⟩ = "5e-324".toList := by decide +kernel

end ParamCodec.Display
