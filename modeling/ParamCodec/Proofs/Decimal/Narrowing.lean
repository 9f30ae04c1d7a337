import ParamCodec.Proofs.Decimal.Rounding

namespace ParamCodec

/-- A power with an integer exponent is a quotient of powers with natural exponents. -/
theorem zpow_eq_toNat {base : ℚ} (exponent : Int) :
    base ^ exponent = base ^ exponent.toNat / base ^ (-exponent).toNat := by
  rcases le_total 0 exponent with nonneg | nonpos
  · have none : (-exponent).toNat = 0 := Int.toNat_of_nonpos (by omega)
    rw [none, pow_zero, div_one, ← zpow_natCast, Int.toNat_of_nonneg nonneg]
  · have none : exponent.toNat = 0 := Int.toNat_of_nonpos nonpos
    rw [none, pow_zero, one_div, ← zpow_natCast, Int.toNat_of_nonneg (by omega), zpow_neg, inv_inv]

def Magnitude.value (magnitude : Magnitude) : ℚ := magnitude.significand * 2 ^ magnitude.exponent

/-- A magnitude is the quotient of its numerator and its denominator. -/
theorem Magnitude.value_eq_div (magnitude : Magnitude) :
    (magnitude.numerator : ℚ) / magnitude.denominator = magnitude.value := by
  rw [value, zpow_eq_toNat, numerator, denominator, Nat.pow_eq, Nat.pow_eq, Nat.cast_mul, Nat.cast_pow,
    Nat.cast_pow, Nat.cast_ofNat, mul_div_assoc]

/-- A magnitude is zero exactly when its significand is. -/
theorem Magnitude.value_ne_zero_iff {magnitude : Magnitude} :
    magnitude.value ≠ 0 ↔ magnitude.significand ≠ 0 := by
  have power : (2 : ℚ) ^ magnitude.exponent ≠ 0 := by positivity
  rw [value, mul_ne_zero_iff, Nat.cast_ne_zero, and_iff_left power]

namespace BinaryFormat

variable {format : BinaryFormat} {numerator denominator : Nat}

/-- A quotient fits at an exponent when it is below the format's widest significand there. -/
theorem fitsAt_iff {exponent : Int} (positive : denominator ≠ 0) :
    format.FitsAt numerator denominator exponent ↔
      (numerator : ℚ) / denominator < 2 ^ format.precision * 2 ^ exponent := by
  have divisor : (0 : ℚ) < denominator := Nat.cast_pos.mpr (Nat.pos_of_ne_zero positive)
  rw [FitsAt, zpow_eq_toNat, div_lt_iff₀ divisor, ← mul_div_assoc, div_mul_eq_mul_div,
    lt_div_iff₀ (by positivity), ← Nat.cast_lt (α := ℚ)]
  push_cast
  rw [mul_assoc _ _ (denominator : ℚ), mul_comm _ (denominator : ℚ)]

/-- The magnitudes of a format, each in one form: the significand has full width unless the exponent is the
least one. -/
structure IsCanonical (format : BinaryFormat) (magnitude : Magnitude) : Prop where
  narrow : magnitude.significand < 2 ^ format.precision
  full : magnitude.exponent = format.leastExponent ∨ 2 ^ (format.precision - 1) ≤ magnitude.significand
  least : format.leastExponent ≤ magnitude.exponent
  greatest : magnitude.exponent ≤ format.greatestExponent

/-- One place less of the significand is one more in the exponent. -/
theorem scale_succ (wide : 0 < format.precision) (exponent : Int) :
    (2 : ℚ) ^ format.precision * 2 ^ exponent = 2 ^ (format.precision - 1) * 2 ^ (exponent + 1) := by
  have width : (2 : ℚ) ^ format.precision = 2 ^ (format.precision - 1) * 2 := by
    rw [← pow_succ, Nat.sub_add_cancel wide]
  rw [width, mul_assoc, zpow_add_one₀ two_ne_zero, mul_comm 2 ((2 : ℚ) ^ exponent)]

/-- Of two canonical magnitudes the one with the larger exponent is larger. -/
theorem IsCanonical.value_lt {small large : Magnitude} (wide : 0 < format.precision)
    (smallForm : format.IsCanonical small) (largeForm : format.IsCanonical large)
    (below : small.exponent < large.exponent) : small.value < large.value := by
  have full : 2 ^ (format.precision - 1) ≤ large.significand := by
    have least := smallForm.least
    exact largeForm.full.resolve_left (by omega)
  calc small.value
      < 2 ^ format.precision * 2 ^ small.exponent :=
        mul_lt_mul_of_pos_right (by exact_mod_cast smallForm.narrow) (by positivity)
    _ = 2 ^ (format.precision - 1) * 2 ^ (small.exponent + 1) := scale_succ wide small.exponent
    _ ≤ 2 ^ (format.precision - 1) * 2 ^ large.exponent :=
        mul_le_mul_of_nonneg_left (zpow_le_zpow_right₀ one_le_two (by omega)) (by positivity)
    _ ≤ large.value := mul_le_mul_of_nonneg_right (by exact_mod_cast full) (by positivity)

/-- Two canonical magnitudes of one value are the same. -/
theorem IsCanonical.eq_of_value_eq {left right : Magnitude} (wide : 0 < format.precision)
    (leftForm : format.IsCanonical left) (rightForm : format.IsCanonical right)
    (same : left.value = right.value) : left = right := by
  have exponents : left.exponent = right.exponent := by
    rcases lt_trichotomy left.exponent right.exponent with below | equal | above
    · exact absurd same (leftForm.value_lt wide rightForm below).ne
    · exact equal
    · exact absurd same (rightForm.value_lt wide leftForm above).ne'
  obtain ⟨leftSignificand, exponent⟩ := left
  obtain ⟨rightSignificand, _⟩ := right
  obtain rfl := exponents
  have scaled : (leftSignificand : ℚ) * 2 ^ exponent = rightSignificand * 2 ^ exponent := same
  have power : (2 : ℚ) ^ exponent ≠ 0 := by positivity
  rw [Nat.cast_injective (mul_right_cancel₀ power scaled)]

/-- A rounded magnitude is canonical. -/
theorem round_isCanonical {magnitude : Magnitude} (wide : 0 < format.precision) (nonzero : numerator ≠ 0)
    (positive : denominator ≠ 0) (rounded : format.round numerator denominator = some magnitude) :
    format.IsCanonical magnitude := by
  obtain ⟨narrow, greatest⟩ := round_bounds wide positive rounded
  have least : format.leastExponent ≤ format.exponentOf numerator denominator := le_max_right _ _
  have full : format.exponentOf numerator denominator = format.leastExponent ∨
      2 ^ (format.precision - 1) ≤ roundHalfEven
        (numerator * 2 ^ (-format.exponentOf numerator denominator).toNat)
        (denominator * 2 ^ (format.exponentOf numerator denominator).toNat) := by
    rcases least.eq_or_lt with equal | above
    · exact .inl equal.symm
    · refine .inr (le_roundHalfEven (by positivity) (not_lt.mp fun free => ?_))
      have below := exponentOf_le wide nonzero positive (by omega) ((fitsAt_pred_iff wide).mpr free)
      omega
  simp only [round, Option.ite_none_right_eq_some, Option.some.injEq] at rounded
  obtain ⟨_, rfl⟩ := rounded
  refine ⟨narrow, ?_, ?_, greatest⟩
  · split_ifs
    · exact .inr le_rfl
    · exact full
  · split_ifs
    · exact Int.le_add_one least
    · exact least

/-- A quotient that the format has is not changed; its significand is filled up to the full width. -/
theorem round_of_value {magnitude : Magnitude} (wide : 0 < format.precision)
    (narrow : magnitude.significand < 2 ^ format.precision)
    (least : format.leastExponent ≤ magnitude.exponent)
    (greatest : magnitude.exponent ≤ format.greatestExponent) (nonzero : numerator ≠ 0)
    (positive : denominator ≠ 0) (same : (numerator : ℚ) / denominator = magnitude.value) :
    ∃ rounded, format.round numerator denominator = some rounded ∧ rounded.value = magnitude.value := by
  have fits : format.FitsAt numerator denominator magnitude.exponent := by
    rw [fitsAt_iff positive, same]
    exact mul_lt_mul_of_pos_right (by exact_mod_cast narrow) (by positivity)
  have below := exponentOf_le wide nonzero positive least fits
  have enough : format.FitsAt numerator denominator (format.exponentOf numerator denominator) :=
    fitsAt_exponentOf wide positive
  unfold FitsAt at enough
  -- The format may have room for a smaller exponent; then the significand gets the places that are missing.
  generalize chosen : format.exponentOf numerator denominator = exponent at below enough
  set places := (magnitude.exponent - exponent).toNat with counted
  have shift : (2 : ℚ) ^ magnitude.exponent = 2 ^ places * 2 ^ exponent := by
    rw [← zpow_natCast, ← zpow_add₀ two_ne_zero, counted, Int.toNat_of_nonneg (by omega), Int.sub_add_cancel]
  have whole : numerator * 2 ^ (-exponent).toNat =
      magnitude.significand * 2 ^ places * (denominator * 2 ^ exponent.toNat) := by
    have divisor : (denominator : ℚ) ≠ 0 := Nat.cast_ne_zero.mpr positive
    rw [Magnitude.value, shift, zpow_eq_toNat, div_eq_iff divisor] at same
    rw [← Nat.cast_inj (R := ℚ)]
    push_cast
    rw [same]
    field_simp
  have power : 0 < denominator * 2 ^ exponent.toNat :=
    Nat.mul_pos (Nat.pos_of_ne_zero positive) (Nat.two_pow_pos _)
  rw [whole] at enough
  have significand := lt_of_mul_lt_mul_right enough power.le
  refine ⟨⟨magnitude.significand * 2 ^ places, exponent⟩, ?_, ?_⟩
  · simp only [round, chosen, Nat.pow_eq, whole, roundHalfEven_mul _ power.ne', if_neg significand.ne,
      if_pos (below.trans greatest)]
  · rw [Magnitude.value, Magnitude.value, shift, Nat.cast_mul, Nat.cast_pow, Nat.cast_ofNat, mul_assoc]

/-- A canonical magnitude is rounded to itself. -/
theorem IsCanonical.round_eq {magnitude : Magnitude} (form : format.IsCanonical magnitude)
    (wide : 0 < format.precision) (nonzero : numerator ≠ 0) (positive : denominator ≠ 0)
    (same : (numerator : ℚ) / denominator = magnitude.value) :
    format.round numerator denominator = some magnitude := by
  obtain ⟨rounded, found, value⟩ :=
    round_of_value wide form.narrow form.least form.greatest nonzero positive same
  rw [found, (round_isCanonical wide nonzero positive found).eq_of_value_eq wide form value]

end BinaryFormat

/-- The numerator of a magnitude is zero exactly when its significand is. -/
theorem Magnitude.numerator_ne_zero_iff {magnitude : Magnitude} :
    magnitude.numerator ≠ 0 ↔ magnitude.significand ≠ 0 := by
  have power : Nat.pow 2 magnitude.exponent.toNat ≠ 0 := (Nat.two_pow_pos _).ne'
  rw [numerator, Nat.mul_ne_zero_iff, and_iff_left power]

/-- The denominator of a magnitude is not zero. -/
theorem Magnitude.denominator_ne_zero (magnitude : Magnitude) : magnitude.denominator ≠ 0 :=
  (Nat.two_pow_pos _).ne'

namespace Binary64

/-- A number is read from the fields that its bits are made of. -/
theorem datum_ofFields (negative : Bool) {exponent fraction : Nat} (inField : exponent < 2 ^ 11)
    (inFraction : fraction < 2 ^ 52) : (ofFields negative (exponent * 2 ^ 52 + fraction)).datum =
      if exponent = 2047 then if fraction = 0 then .infinite negative else .nan
      else if exponent = 0 then .finite negative ⟨fraction, -1074⟩
      else .finite negative ⟨2 ^ 52 + fraction, (exponent : Int) - 1075⟩ := by
  have fields : (ofFields negative (exponent * 2 ^ 52 + fraction)).negative = negative ∧
      (ofFields negative (exponent * 2 ^ 52 + fraction)).exponentField = exponent ∧
      (ofFields negative (exponent * 2 ^ 52 + fraction)).fractionField = fraction := by
    cases negative <;> simp [exponentField, fractionField, Binary64.negative, ofFields] <;> omega
  obtain ⟨sign, field, rest⟩ := fields
  rw [datum, sign, field, rest]
  rfl

/-- Zero is finite and keeps its sign. -/
theorem datum_zero (negative : Bool) : (zero negative).datum = .finite negative ⟨0, -1074⟩ := by
  have datum := datum_ofFields negative (show 0 < 2 ^ 11 by decide) (show 0 < 2 ^ 52 by decide)
  rwa [if_neg (by decide), if_pos rfl, Nat.zero_mul, Nat.zero_add] at datum

/-- Infinity stands for infinity of its sign. -/
theorem datum_infinity (negative : Bool) : (infinity negative).datum = .infinite negative := by
  have datum := datum_ofFields negative (show 2047 < 2 ^ 11 by decide) (show 0 < 2 ^ 52 by decide)
  rwa [if_pos rfl, if_pos rfl, Nat.add_zero] at datum

theorem datum_nan : nan.datum = .nan := by decide

/-- A number is infinite when its bits stand for infinity. -/
theorem isInfinite_iff_datum {number : Binary64} :
    number.isInfinite = true ↔ number.datum = .infinite number.negative := by
  unfold isInfinite datum
  split_ifs <;> simp [*]

/-- The sign of a finite number is its sign bit. -/
theorem negative_of_finite {number : Binary64} {negative : Bool} {magnitude : Magnitude}
    (datum : number.datum = .finite negative magnitude) : number.negative = negative := by
  unfold Binary64.datum at datum
  split_ifs at datum <;> cases datum <;> rfl

/-- The sign of infinity is its sign bit. -/
theorem negative_of_infinite {number : Binary64} {negative : Bool}
    (datum : number.datum = .infinite negative) : number.negative = negative := by
  unfold Binary64.datum at datum
  split_ifs at datum
  cases datum
  rfl

/-- The bits of a magnitude keep it. -/
theorem datum_ofMagnitude (negative : Bool) {magnitude : Magnitude}
    (form : binary64.IsCanonical magnitude) :
    (ofMagnitude negative magnitude).datum = .finite negative magnitude := by
  obtain ⟨significand, exponent⟩ := magnitude
  have narrow : significand < 2 ^ 53 := form.narrow
  have full : exponent = -1074 ∨ 2 ^ 52 ≤ significand := form.full
  have least : -1074 ≤ exponent := form.least
  have greatest : exponent ≤ 971 := form.greatest
  rcases lt_or_ge significand (2 ^ 52) with subnormal | normal
  · obtain rfl := full.resolve_right (not_le.mpr subnormal)
    have datum := datum_ofFields negative (show 0 < 2 ^ 11 by decide) subnormal
    rw [Nat.zero_mul, Nat.zero_add] at datum
    have bits : ofMagnitude negative ⟨significand, -1074⟩ = ofFields negative significand := if_pos subnormal
    rw [bits, datum]
    rfl
  · have datum := datum_ofFields negative (show (exponent + 1075).toNat < 2 ^ 11 by omega)
      (show significand - 2 ^ 52 < 2 ^ 52 by omega)
    rw [if_neg (by omega), if_neg (by omega), Nat.add_sub_cancel' normal, Int.toNat_of_nonneg (by omega),
      Int.add_sub_cancel] at datum
    have bits : ofMagnitude negative ⟨significand, exponent⟩ =
        ofFields negative ((exponent + 1075).toNat * 2 ^ 52 + (significand - 2 ^ 52)) :=
      if_neg (not_lt.mpr normal)
    rw [bits, datum]

/-- The number rounded to the format of 32 bits and taken back to the one of 64. -/
def narrowed (number : Binary64) : Binary64 :=
  match number.datum with
  | .nan => nan
  | .infinite negative => infinity negative
  | .finite negative magnitude =>
    if magnitude.significand = 0 then zero negative
    else
      match binary32.round magnitude.numerator magnitude.denominator with
      | some rounded => ofQuotient negative rounded.numerator rounded.denominator
      | none => infinity negative

/-- A magnitude of 32 bits is one of 64 bits, from which it is rounded to itself. -/
theorem datum_ofQuotient_of_binary32 (negative : Bool) {magnitude : Magnitude}
    (form : binary32.IsCanonical magnitude) (nonzero : magnitude.significand ≠ 0) :
    ∃ wide : Magnitude, wide.significand ≠ 0 ∧ wide.value = magnitude.value ∧
      (ofQuotient negative magnitude.numerator magnitude.denominator).datum = .finite negative wide ∧
      binary32.round wide.numerator wide.denominator = some magnitude := by
  have numerator := Magnitude.numerator_ne_zero_iff.mpr nonzero
  have denominator := magnitude.denominator_ne_zero
  have narrow : magnitude.significand < 2 ^ binary64.precision :=
    form.narrow.trans (Nat.pow_lt_pow_right (by decide) (by decide))
  have least : binary64.leastExponent ≤ magnitude.exponent := le_trans (by decide) form.least
  have greatest : magnitude.exponent ≤ binary64.greatestExponent := form.greatest.trans (by decide)
  obtain ⟨wide, rounded, value⟩ := BinaryFormat.round_of_value (by decide) narrow least greatest numerator
    denominator magnitude.value_eq_div
  have wideForm := BinaryFormat.round_isCanonical (by decide) numerator denominator rounded
  have wideNonzero : wide.significand ≠ 0 := by
    rw [← Magnitude.value_ne_zero_iff, value, Magnitude.value_ne_zero_iff]
    exact nonzero
  refine ⟨wide, wideNonzero, value, ?_, ?_⟩
  · rw [ofQuotient, if_neg numerator, rounded]
    exact datum_ofMagnitude negative wideForm
  · exact form.round_eq (by decide) (Magnitude.numerator_ne_zero_iff.mpr wideNonzero)
      wide.denominator_ne_zero (wide.value_eq_div.trans value)

end Binary64

end ParamCodec
