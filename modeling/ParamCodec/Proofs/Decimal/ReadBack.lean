import ParamCodec.Proofs.Decimal.Layout
import ParamCodec.Proofs.Decimal.Nearest

namespace ParamCodec

namespace Shortest

open BinaryFormat

variable {format : BinaryFormat} {magnitude : Magnitude}

/-- The units of the interval put a quarter of the last place at its value. -/
theorem quarter_scaled (magnitude : Magnitude) :
    (quarter magnitude : ℚ) * 10 ^ unitExponent magnitude = 2 ^ magnitude.exponent / 4 := by
  have shift : (2 : ℚ) ^ magnitude.exponent / 4 = 2 ^ (magnitude.exponent - 2) := by
    rw [zpow_sub₀ two_ne_zero]
    norm_num
  rw [shift, quarter, unitExponent, Nat.pow_eq, Nat.pow_eq]
  generalize exponentOf : magnitude.exponent - 2 = exponent
  have negated : 2 - magnitude.exponent = -exponent := by omega
  rw [negated]
  push_cast
  rcases le_total 0 exponent with nonneg | nonpos
  · have none : (-exponent).toNat = 0 := Int.toNat_of_nonpos (by omega)
    rw [min_eq_right nonneg, none, zpow_zero, pow_zero, mul_one, mul_one, ← zpow_natCast,
      Int.toNat_of_nonneg nonneg]
  · have ten : (10 : ℚ) = 2 * 5 := by norm_num
    have five : (5 : ℚ) ^ (-exponent).toNat * 5 ^ exponent = 1 := by
      rw [← zpow_natCast, Int.toNat_of_nonneg (by omega), ← zpow_add₀ (by norm_num), neg_add_cancel, zpow_zero]
    rw [min_eq_left nonpos, Int.toNat_of_nonpos nonpos, pow_zero, one_mul, ten, mul_zpow, mul_left_comm, five,
      mul_one]

/-- The lower end of the interval is the middle of the gap below the magnitude. -/
theorem lower_scaled (format : BinaryFormat) (nonzero : magnitude.significand ≠ 0) :
    ((interval format magnitude).lower : ℚ) * 10 ^ unitExponent magnitude =
      (magnitude.significand - format.reachBelow magnitude) * 2 ^ magnitude.exponent := by
  rw [interval, Nat.cast_mul, mul_assoc, quarter_scaled, reachBelow]
  split_ifs
  · rw [Nat.cast_sub (by omega)]
    push_cast
    ring
  · rw [Nat.cast_sub (by omega)]
    push_cast
    ring

/-- The upper end of the interval is the middle of the gap above the magnitude. -/
theorem upper_scaled (format : BinaryFormat) (magnitude : Magnitude) :
    ((interval format magnitude).upper : ℚ) * 10 ^ unitExponent magnitude =
      (magnitude.significand + 1 / 2) * 2 ^ magnitude.exponent := by
  rw [interval, Nat.cast_mul, mul_assoc, quarter_scaled]
  push_cast
  ring

/-- What is in the interval of a magnitude identifies it. -/
theorem identifies_of_contains (nonzero : magnitude.significand ≠ 0) {point : Nat}
    (inside : (interval format magnitude).contains point = true) :
    format.Identifies (point * 10 ^ unitExponent magnitude) magnitude := by
  have unit : (0 : ℚ) < 10 ^ unitExponent magnitude := by positivity
  obtain ⟨lower, upper, strict⟩ := Interval.contains_iff.mp inside
  constructor
  · rw [← lower_scaled format nonzero]
    exact mul_le_mul_of_nonneg_right (Nat.cast_le.mpr lower) unit.le
  · rw [← upper_scaled format]
    exact mul_le_mul_of_nonneg_right (Nat.cast_le.mpr upper) unit.le
  · intro odd
    have isOpen : (interval format magnitude).closed = false := by
      rw [interval, odd]
      rfl
    obtain ⟨lower, upper⟩ := strict isOpen
    rw [← lower_scaled format nonzero, ← upper_scaled format]
    exact ⟨mul_lt_mul_of_pos_right (Nat.cast_lt.mpr lower) unit,
      mul_lt_mul_of_pos_right (Nat.cast_lt.mpr upper) unit⟩

/-- The digits chosen for a magnitude other than zero denote a point of its interval. -/
theorem exists_point (format : BinaryFormat) (tie : Tie) (nonzero : magnitude.significand ≠ 0) :
    ∃ point, point ≠ 0 ∧ (interval format magnitude).contains point = true ∧
      (ofMagnitude format tie magnitude).size = point * 10 ^ unitExponent magnitude ∧
      (ofMagnitude format tie magnitude).exponent =
        unitExponent magnitude + (Text.decimal point).length - 1 := by
  let power := (Text.decimal (interval format magnitude).value).length - 1
  refine ⟨(interval format magnitude).coarsest tie power, coarsest_ne_zero format tie nonzero power,
    Interval.contains_coarsest (contains_value format nonzero) power, ?_, ?_⟩
  · rw [Scientific.size, ofMagnitude, if_neg nonzero]
    dsimp only
    generalize (interval format magnitude).coarsest tie power = point
    obtain ⟨count, length, same⟩ := Text.decimalValue_withoutZeros (Text.decimal_isDigit point)
    rw [Text.decimalValue_decimal] at same
    rw [withoutTrailingZeros]
    generalize ((Text.decimal point).reverse.dropWhile (· == '0')).reverse = kept at length same ⊢
    have scale : unitExponent magnitude + (Text.decimal point).length - 1 - (kept.length - 1 : Int) =
        count + unitExponent magnitude := by omega
    rw [scale, same, zpow_add₀ (by norm_num), zpow_natCast]
    push_cast
    rw [mul_assoc]
  · rw [ofMagnitude, if_neg nonzero]

/-- The digits that are chosen denote a number that rounds to the magnitude. -/
theorem identifies_size (format : BinaryFormat) (tie : Tie) (nonzero : magnitude.significand ≠ 0) :
    format.Identifies (ofMagnitude format tie magnitude).size magnitude := by
  obtain ⟨point, _, inside, size, _⟩ := exists_point format tie nonzero
  rw [size]
  exact identifies_of_contains nonzero inside

/-- The exponent is the one of the power of ten below the number. -/
theorem exponent_bounds (format : BinaryFormat) (tie : Tie) (nonzero : magnitude.significand ≠ 0) :
    (10 : ℚ) ^ (ofMagnitude format tie magnitude).exponent ≤ (ofMagnitude format tie magnitude).size ∧
      (ofMagnitude format tie magnitude).size < 10 ^ ((ofMagnitude format tie magnitude).exponent + 1) := by
  obtain ⟨point, stands, _, size, exponent⟩ := exists_point format tie nonzero
  rw [size, exponent, Int.sub_add_cancel]
  exact Text.scaled_bounds stands _

end Shortest

namespace Binary64

variable {number : Binary64} {negative : Bool} {magnitude : Magnitude}

/-- What the bits of a finite number stand for has the form of the format. -/
theorem isCanonical_of_datum (datum : number.datum = .finite negative magnitude) :
    binary64.IsCanonical magnitude := by
  have field : number.exponentField < 2 ^ 11 := Nat.mod_lt _ (by decide)
  have fraction : number.fractionField < 2 ^ 52 := Nat.mod_lt _ (by decide)
  unfold Binary64.datum at datum
  split_ifs at datum with special none subnormal
  · cases datum
    exact ⟨fraction.trans (by decide), .inl rfl, le_rfl, show (-1074 : Int) ≤ 971 by decide⟩
  · cases datum
    constructor
    · change 2 ^ 52 + number.fractionField < 2 ^ 53
      omega
    · exact .inr (Nat.le_add_right _ _)
    · change (-1074 : Int) ≤ number.exponentField - 1075
      omega
    · change (number.exponentField : Int) - 1075 ≤ 971
      omega

/-- A number is made of its fields. -/
theorem ofFields_eq (number : Binary64) :
    ofFields number.negative (number.exponentField * 2 ^ 52 + number.fractionField) = number := by
  obtain ⟨bits⟩ := number
  have small : bits.toNat < 2 ^ 64 := bits.toNat_lt
  unfold ofFields Binary64.negative exponentField fractionField
  rw [Binary64.mk.injEq, ← UInt64.toNat_inj, UInt64.toNat_ofNat']
  simp only [Nat.pow_eq, decide_eq_true_eq]
  split_ifs <;> omega

/-- A finite number has the bits of what it stands for. -/
theorem ofMagnitude_of_datum (datum : number.datum = .finite negative magnitude) :
    ofMagnitude negative magnitude = number := by
  have fraction : number.fractionField < 2 ^ 52 := Nat.mod_lt _ (by decide)
  have fields := ofFields_eq number
  unfold Binary64.datum at datum
  split_ifs at datum with special none subnormal
  · cases datum
    rw [subnormal, Nat.zero_mul, Nat.zero_add] at fields
    rw [ofMagnitude]
    exact (if_pos fraction).trans fields
  · cases datum
    have normal : ¬ 2 ^ 52 + number.fractionField < 2 ^ 52 := by omega
    have exponent : ((number.exponentField : Int) - 1075 + 1075).toNat = number.exponentField := by omega
    simp only [ofMagnitude, Nat.pow_eq, if_neg normal, exponent, Nat.add_sub_cancel_left]
    exact fields

/-- Half the least number of the format is not too small to be looked at. -/
theorem half_least_bound : (10 : ℚ) ^ (-401 : Int) ≤ 1 / 2 * 2 ^ (-1074 : Int) := by
  have powers : (2 : ℚ) ^ 1075 ≤ 10 ^ 401 := by
    have natural : 2 ^ 1075 ≤ 10 ^ 401 := by decide +kernel
    exact_mod_cast natural
  have half : (1 : ℚ) / 2 * 2 ^ (-1074 : Int) = (2 ^ 1075)⁻¹ := by
    rw [zpow_neg, zpow_ofNat, pow_succ 2 1074, mul_inv, one_div, mul_comm]
  rw [half, zpow_neg, zpow_ofNat]
  exact inv_anti₀ (by positivity) powers

/-- The numbers of the format are not too large to be looked at. -/
theorem greatest_bound : (2 : ℚ) ^ 53 * 2 ^ (971 : Int) < 10 ^ (400 : Int) := by
  have powers : (2 : ℚ) ^ 1024 < 10 ^ 400 := by
    have natural : 2 ^ 1024 < 10 ^ 400 := by decide +kernel
    exact_mod_cast natural
  rwa [zpow_ofNat, zpow_ofNat, ← pow_add]

/-- A number that rounds to a magnitude of 64 bits has its first digit within 400 places of the point.
-/
theorem bounds_of_identifies (form : binary64.IsCanonical magnitude) (nonzero : magnitude.significand ≠ 0)
    {value : ℚ} (identifies : binary64.Identifies value magnitude) :
    (10 : ℚ) ^ (-401 : Int) ≤ value ∧ value < 10 ^ (400 : Int) := by
  have power : (0 : ℚ) < 2 ^ magnitude.exponent := by positivity
  have narrow : (magnitude.significand : ℚ) + 1 ≤ 2 ^ 53 := by exact_mod_cast form.narrow
  have one : (1 : ℚ) ≤ magnitude.significand := by exact_mod_cast Nat.pos_of_ne_zero nonzero
  have least : (2 : ℚ) ^ (-1074 : Int) ≤ 2 ^ magnitude.exponent := zpow_le_zpow_right₀ one_le_two form.least
  have greatest : (2 : ℚ) ^ magnitude.exponent ≤ 2 ^ (971 : Int) :=
    zpow_le_zpow_right₀ one_le_two form.greatest
  have reach := binary64.reachBelow_le magnitude
  constructor
  · calc (10 : ℚ) ^ (-401 : Int)
        ≤ 1 / 2 * 2 ^ (-1074 : Int) := half_least_bound
      _ ≤ (magnitude.significand - binary64.reachBelow magnitude) * 2 ^ magnitude.exponent :=
          mul_le_mul (by linarith) least (by positivity) (by linarith)
      _ ≤ value := identifies.lower
  · calc value
        ≤ (magnitude.significand + 1 / 2) * 2 ^ magnitude.exponent := identifies.upper
      _ ≤ 2 ^ 53 * 2 ^ (971 : Int) := mul_le_mul (by linarith) greatest power.le (by positivity)
      _ < 10 ^ (400 : Int) := greatest_bound

/-- The exponents of the digits that are chosen for numbers of the format. -/
theorem exponent_shortest (form : binary64.IsCanonical magnitude) (tie : Tie) :
    -401 ≤ (Shortest.ofMagnitude binary64 tie magnitude).exponent ∧
      (Shortest.ofMagnitude binary64 tie magnitude).exponent < 400 := by
  by_cases zero : magnitude.significand = 0
  · rw [Shortest.ofMagnitude, if_pos zero]
    decide
  · have ten : (1 : ℚ) < 10 := by norm_num
    obtain ⟨least, greatest⟩ := bounds_of_identifies form zero (Shortest.identifies_size binary64 tie zero)
    obtain ⟨lower, upper⟩ := Shortest.exponent_bounds binary64 tie zero
    have above := (zpow_lt_zpow_iff_right₀ ten).mp (least.trans_lt upper)
    exact ⟨by omega, (zpow_lt_zpow_iff_right₀ ten).mp (lower.trans_lt greatest)⟩

/-- Digits that are not cut off for their size are rounded as a quotient. -/
theorem ofDecimal_eq_ofQuotient {digits : Nat} {exponent : Int} (negative : Bool)
    (least : (10 : ℚ) ^ (-401 : Int) ≤ digits * 10 ^ exponent)
    (greatest : (digits : ℚ) * 10 ^ exponent < 10 ^ (400 : Int)) :
    digits ≠ 0 ∧ ofDecimal negative digits exponent =
      ofQuotient negative (digits * 10 ^ exponent.toNat) (10 ^ (-exponent).toNat) := by
  have nonzero : digits ≠ 0 := by
    rintro rfl
    rw [Nat.cast_zero, zero_mul] at least
    exact absurd least (not_le.mpr (by positivity))
  obtain ⟨lower, upper⟩ := Text.scaled_bounds nonzero exponent
  have ten : (1 : ℚ) < 10 := by norm_num
  have below := (zpow_lt_zpow_iff_right₀ ten).mp (lower.trans_lt greatest)
  have above := (zpow_lt_zpow_iff_right₀ ten).mp (least.trans_lt upper)
  rw [Text.decimal] at below above
  refine ⟨nonzero, ?_⟩
  rw [ofDecimal, if_neg nonzero]
  dsimp only
  rw [if_neg (by omega), if_neg (by omega)]
  rfl

/-- Digits that identify what a number stands for are read as the number. -/
theorem ofDecimal_of_identifies (datum : number.datum = .finite negative magnitude)
    (nonzero : magnitude.significand ≠ 0) {digits : Nat} {exponent : Int}
    (identifies : binary64.Identifies (digits * 10 ^ exponent) magnitude) :
    ofDecimal negative digits exponent = number := by
  have form := isCanonical_of_datum datum
  obtain ⟨least, greatest⟩ := bounds_of_identifies form nonzero identifies
  obtain ⟨stands, quotient⟩ := ofDecimal_eq_ofQuotient negative least greatest
  have numerator : digits * 10 ^ exponent.toNat ≠ 0 := Nat.mul_ne_zero stands (by positivity)
  have value : (digits : ℚ) * 10 ^ exponent =
      (digits * 10 ^ exponent.toNat : Nat) / (10 ^ (-exponent).toNat : Nat) := by
    rw [zpow_eq_toNat]
    push_cast
    rw [mul_div_assoc]
  rw [value] at identifies
  rw [quotient, ofQuotient, if_neg numerator, identifies.round_eq (by decide) form numerator (by positivity)]
  exact ofMagnitude_of_datum datum

/-- The digits chosen for what a number stands for are read as the number, with its sign also for zero. -/
theorem ofDecimal_of_shortest {tie : Tie} (datum : number.datum = .finite negative magnitude)
    {digits : Nat} {exponent : Int}
    (same : (digits : ℚ) * 10 ^ exponent = (Shortest.ofMagnitude binary64 tie magnitude).size) :
    ofDecimal negative digits exponent = number := by
  by_cases zero : magnitude.significand = 0
  · have none : digits = 0 := by
      have power : (10 : ℚ) ^ exponent ≠ 0 := by positivity
      have digit : Text.decimalValue ['0'] = 0 := rfl
      rw [Shortest.ofMagnitude, if_pos zero, Scientific.size, digit, Nat.cast_zero, zero_mul, mul_eq_zero,
        or_iff_left power, Nat.cast_eq_zero] at same
      exact same
    rw [ofDecimal, if_pos none, ← ofMagnitude_of_datum datum, ofMagnitude, zero]
    rfl
  · exact ofDecimal_of_identifies datum zero (same ▸ Shortest.identifies_size binary64 tie zero)

end Binary64

end ParamCodec
