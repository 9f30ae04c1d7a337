import ParamCodec.Proofs.Decimal.Narrowing
import ParamCodec.Proofs.Display.DecimalTexts

namespace ParamCodec.Display

open Binary64

def infinityText (negative : Bool) : Text := (if negative then "-Inf" else "+Inf").toList

/-- A decimal numeral, which may have a minus in front of it, or one of three words. -/
inductive FloatForm : Text → Prop
  | nan : FloatForm "NaN".toList
  | infinite (negative : Bool) : FloatForm (infinityText negative)
  | decimal (negative : Bool) {body : Text} {parts : Numeral.Parts} (spells : Numeral.Spells body parts) :
      FloatForm (signText negative ++ body)

/-- Every finite number is shown as a decimal numeral. -/
theorem form_of_text (format : BinaryFormat) (negative : Bool) (magnitude : Magnitude) :
    FloatForm (decimalText format negative magnitude) := by
  obtain ⟨body, parts, same, spells, _⟩ := decimalText_spells format negative magnitude
  rw [same]
  exact .decimal negative spells

/-- Every format has the same zero. -/
theorem text_zero (format : BinaryFormat) (negative : Bool) {magnitude : Magnitude}
    (zero : magnitude.significand = 0) :
    decimalText format negative magnitude = decimalText binary64 negative ⟨0, -1074⟩ := by
  rw [decimalText, decimalText, Shortest.ofMagnitude, if_pos zero]
  rfl

/-- Neither of the texts has an exponent when both are the word for a number that is too large. -/
theorem chosenText_inf (negative : Bool) :
    chosenText (signText negative ++ "inf".toList) (signText negative ++ "inf".toList) =
      signText negative ++ "inf".toList := by
  cases negative <;> rfl

/-- A number in 32 bits is rounded first, and shown as infinity where that leaves the format. -/
theorem finiteText_narrow (negative : Bool) {magnitude : Magnitude} (nonzero : magnitude.significand ≠ 0) :
    finiteText true negative magnitude =
      match binary32.round magnitude.numerator magnitude.denominator with
      | some narrowed => decimalText binary32 negative narrowed
      | none => signText negative ++ "inf".toList := by
  have counts : (true && magnitude.significand != 0) = true := by simpa using nonzero
  rw [← chosenText_inf]
  exact if_pos counts

/-- How the text of a number in 32 bits depends on the narrowed number. -/
inductive ShownNarrow (number : Binary64) : Prop
  | kept (same : floatText true number = floatText true number.narrowed)
      (alike : number.isInfinite = number.narrowed.isInfinite) (form : FloatForm (floatText true number))
  | overflow (finite : number.isInfinite = false)
      (infinite : number.narrowed.datum = .infinite number.negative)
      (text : floatText true number = signText number.negative ++ "inf".toList)

/-- A finite number is not infinite. -/
theorem isInfinite_of_finite {number : Binary64} {negative : Bool} {magnitude : Magnitude}
    (datum : number.datum = .finite negative magnitude) : number.isInfinite = false := by
  rw [Bool.eq_false_iff, ne_eq, isInfinite_iff_datum, datum]
  exact nofun

/-- Zero and what narrowing makes zero are shown alike. -/
theorem shownNarrow_zero {number : Binary64} {negative : Bool} {magnitude : Magnitude}
    (datum : number.datum = .finite negative magnitude) (narrowed : number.narrowed = zero negative)
    (shown : floatText true number = decimalText binary64 negative ⟨0, -1074⟩) :
    ShownNarrow number := by
  refine .kept ?_ ?_ (shown ▸ form_of_text ..)
  · rw [shown, narrowed, floatText, datum_zero]
    rfl
  · rw [isInfinite_of_finite datum, narrowed, isInfinite_of_finite (datum_zero negative)]

/-- A number other than zero is rounded, and what comes out is rounded to itself when it is shown again. -/
theorem shownNarrow_finite {number : Binary64} {negative : Bool} {magnitude : Magnitude}
    (datum : number.datum = .finite negative magnitude) (nonzero : magnitude.significand ≠ 0) :
    ShownNarrow number := by
  have shown : floatText true number = finiteText true negative magnitude := by rw [floatText, datum]
  have narrowed : number.narrowed =
      match binary32.round magnitude.numerator magnitude.denominator with
      | some rounded => ofQuotient negative rounded.numerator rounded.denominator
      | none => infinity negative := by
    rw [Binary64.narrowed, datum]
    exact if_neg nonzero
  rw [finiteText_narrow negative nonzero] at shown
  cases rounded : binary32.round magnitude.numerator magnitude.denominator with
  | none =>
      rw [rounded] at shown narrowed
      refine .overflow (isInfinite_of_finite datum) ?_ ?_
      · rw [narrowed, datum_infinity, negative_of_finite datum]
      · rw [shown, negative_of_finite datum]
  | some small =>
      rw [rounded] at shown narrowed
      dsimp only at shown narrowed
      -- The rounded number may be zero, which has its own bits and its own text.
      by_cases vanishes : small.significand = 0
      · refine shownNarrow_zero datum ?_ ?_
        · rw [narrowed, ofQuotient, if_pos]
          exact not_not.mp (Magnitude.numerator_ne_zero_iff.not.mpr (not_not.mpr vanishes))
        · rw [shown, text_zero binary32 negative vanishes]
      · have form := BinaryFormat.round_isCanonical (by decide)
          (Magnitude.numerator_ne_zero_iff.mpr nonzero) magnitude.denominator_ne_zero rounded
        obtain ⟨wide, wideNonzero, _, wideDatum, again⟩ :=
          datum_ofQuotient_of_binary32 negative form vanishes
        rw [← narrowed] at wideDatum
        refine .kept ?_ ?_ (shown ▸ form_of_text ..)
        · rw [shown, floatText, wideDatum]
          dsimp only
          rw [finiteText_narrow negative wideNonzero, again]
        · rw [isInfinite_of_finite datum, isInfinite_of_finite wideDatum]

/-- Each number is shown in 32 bits by one of the cases. -/
theorem shownNarrow (number : Binary64) : ShownNarrow number := by
  cases datum : number.datum with
  | nan =>
      have narrowed : number.narrowed = nan := by rw [Binary64.narrowed, datum]
      have text : floatText true number = "NaN".toList := by rw [floatText, datum]
      refine .kept ?_ ?_ (text ▸ .nan)
      · rw [text, narrowed]
        rfl
      · rw [narrowed, Bool.eq_iff_iff, isInfinite_iff_datum, isInfinite_iff_datum, datum, datum_nan]
        exact iff_of_false (fun same => by cases same) (fun same => by cases same)
  | infinite negative =>
      have narrowed : number.narrowed = infinity negative := by rw [Binary64.narrowed, datum]
      have text : floatText true number = infinityText negative := by rw [floatText, datum, infinityText]
      refine .kept ?_ ?_ (text ▸ .infinite negative)
      · rw [text, narrowed, floatText, datum_infinity, infinityText]
      · rw [narrowed, isInfinite_infinity, isInfinite_iff_datum, datum, negative_of_infinite datum]
  | finite negative magnitude =>
      by_cases zero : magnitude.significand = 0
      · refine shownNarrow_zero datum ?_ ?_
        · rw [Binary64.narrowed, datum]
          exact if_pos zero
        · rw [floatText, datum, ← text_zero binary64 negative zero]
          simp [finiteText, zero]
      · exact shownNarrow_finite datum zero

theorem float32_eq_ok (number : Binary64) :
    value (.scalar .float32) (.number number) = .ok (floatText true number) := rfl

/-- The word that is shown where narrowing leaves the range is none of the three. -/
theorem not_form_inf (negative : Bool) : ¬ FloatForm (signText negative ++ "inf".toList) := by
  generalize same : signText negative ++ "inf".toList = text
  intro form
  cases form with
  | nan => cases negative <;> cases same
  | infinite other => cases negative <;> cases other <;> cases same
  | decimal other spells =>
      obtain ⟨letter, tail, rfl, first⟩ := spells.starts
      cases negative <;> cases other <;> cases same <;> revert first <;> decide

/-- A number is shown in 32 bits as the narrowed number is exactly when narrowing leads to infinity from
infinity only, and exactly then the text is a decimal numeral or one of three words. A finite number whose
narrowing is infinite has a text of its own. -/
theorem float32_narrowed_iff (number : Binary64) :
    (value (.scalar .float32) (.number number) = value (.scalar .float32) (.number number.narrowed) ↔
      (number.narrowed.isInfinite = true → number.isInfinite = true)) ∧
    ∃ text, value (.scalar .float32) (.number number) = .ok text ∧
      (FloatForm text ↔ (number.narrowed.isInfinite = true → number.isInfinite = true)) ∧
      (number.narrowed.isInfinite = true →
        text = if number.isInfinite then infinityText number.negative
          else signText number.negative ++ "inf".toList) := by
  rw [float32_eq_ok, float32_eq_ok, Except.ok.injEq]
  cases shownNarrow number with
  | kept same alike form =>
      have within : number.narrowed.isInfinite = true → number.isInfinite = true := alike.trans
      refine ⟨iff_of_true same within, _, rfl, iff_of_true form within, fun infinite => ?_⟩
      rw [within infinite, if_pos rfl, floatText, isInfinite_iff_datum.mp (within infinite), infinityText]
  | overflow finite infinite text =>
      have leaves : ¬ (number.narrowed.isInfinite = true → number.isInfinite = true) := by
        rw [finite, isInfinite_iff_datum, infinite, negative_of_infinite infinite]
        exact fun within => Bool.false_ne_true (within rfl)
      refine ⟨iff_of_false ?_ leaves, _, rfl, iff_of_false (text ▸ not_form_inf _) leaves, fun _ => ?_⟩
      · rw [text, floatText, infinite]
        cases number.negative <;> decide
      · rw [text, finite]
        rfl

/-- The nearest numbers to 1.1 in 64 bits and in 32 bits have one text. -/
theorem float32_narrowed_iff_nearby :
    (⟨0x3ff199999999999a⟩ : Binary64).narrowed = ⟨0x3ff19999a0000000⟩ ∧
      value (.scalar .float32) (.number ⟨0x3ff199999999999a⟩) =
        value (.scalar .float32) (.number ⟨0x3ff19999a0000000⟩) := by
  have narrowed : (⟨0x3ff199999999999a⟩ : Binary64).narrowed = ⟨0x3ff19999a0000000⟩ := by decide +kernel
  have same := (float32_narrowed_iff ⟨0x3ff199999999999a⟩).1.mpr (by decide +kernel)
  exact ⟨narrowed, narrowed ▸ same⟩

/-- A finite number too large for 32 bits is not shown as the infinity that it is narrowed to. -/
theorem float32_too_large :
    (⟨0x7e37e43c8800759c⟩ : Binary64).narrowed = infinity false ∧
      value (.scalar .float32) (.number ⟨0x7e37e43c8800759c⟩) = .ok "inf".toList ∧
      value (.scalar .float32) (.number (infinity false)) = .ok "+Inf".toList := by
  refine ⟨by decide +kernel, ?_, ?_⟩
  · rw [float32_eq_ok]
    exact congrArg _ (by decide +kernel)
  · rw [float32_eq_ok]
    exact congrArg _ (by decide +kernel)

end ParamCodec.Display
