import Mathlib.Tactic
import ParamCodec.Decimal.Binary

namespace ParamCodec

/-- Rounding to an integer passes no integer that the quotient stays below. -/
theorem roundHalfEven_le {numerator denominator bound : Nat}
    (below : numerator < bound * denominator) : roundHalfEven numerator denominator ≤ bound := by
  have quotient : numerator / denominator < bound :=
    Nat.div_lt_of_lt_mul (Nat.mul_comm bound denominator ▸ below)
  unfold roundHalfEven
  dsimp only
  split_ifs <;> omega

/-- A quotient that is not below a whole number is not rounded below it. -/
theorem le_roundHalfEven {numerator denominator bound : Nat} (positive : denominator ≠ 0)
    (above : bound * denominator ≤ numerator) : bound ≤ roundHalfEven numerator denominator := by
  have quotient : bound ≤ numerator / denominator :=
    (Nat.le_div_iff_mul_le (Nat.pos_of_ne_zero positive)).mpr above
  unfold roundHalfEven
  dsimp only
  split_ifs <;> omega

/-- An integer is not changed. -/
theorem roundHalfEven_mul (quotient : Nat) {denominator : Nat} (positive : denominator ≠ 0) :
    roundHalfEven (quotient * denominator) denominator = quotient := by
  have divisor := Nat.pos_of_ne_zero positive
  rw [roundHalfEven, Nat.mul_mod_left, Nat.mul_div_cancel _ divisor]
  exact if_pos divisor

namespace BinaryFormat

variable {format : BinaryFormat} {numerator denominator : Nat}

/-- At the exponent the quotient needs no wider significand than the format has. -/
def FitsAt (format : BinaryFormat) (numerator denominator : Nat) (exponent : Int) : Prop :=
  numerator * 2 ^ (-exponent).toNat < 2 ^ format.precision * (denominator * 2 ^ exponent.toNat)

/-- A quotient that fits at an exponent fits at every larger one. -/
theorem FitsAt.mono {exponent larger : Int} (fits : format.FitsAt numerator denominator exponent)
    (le : exponent ≤ larger) : format.FitsAt numerator denominator larger := by
  have fewer : (-larger).toNat ≤ (-exponent).toNat := by omega
  have more : exponent.toNat ≤ larger.toNat := by omega
  calc numerator * 2 ^ (-larger).toNat
      ≤ numerator * 2 ^ (-exponent).toNat :=
        Nat.mul_le_mul_left _ (Nat.pow_le_pow_right (by decide) fewer)
    _ < 2 ^ format.precision * (denominator * 2 ^ exponent.toNat) := fits
    _ ≤ 2 ^ format.precision * (denominator * 2 ^ larger.toNat) :=
        Nat.mul_le_mul_left _ (Nat.mul_le_mul_left _ (Nat.pow_le_pow_right (by decide) more))

/-- The difference of the sizes of numerator and denominator gives an exponent that is no less than
needed. -/
theorem fitsAt_log2 (format : BinaryFormat) (numerator : Nat) (positive : denominator ≠ 0) :
    format.FitsAt numerator denominator
      ((numerator.log2 : Int) - denominator.log2 - format.precision + 1) := by
  set guess : Int := (numerator.log2 : Int) - denominator.log2 - format.precision + 1 with guessed
  have balance : numerator.log2 + 1 + (-guess).toNat =
      format.precision + (denominator.log2 + guess.toNat) := by omega
  calc numerator * 2 ^ (-guess).toNat
      < 2 ^ (numerator.log2 + 1) * 2 ^ (-guess).toNat :=
        Nat.mul_lt_mul_of_pos_right Nat.lt_log2_self (Nat.two_pow_pos _)
    _ = 2 ^ format.precision * (2 ^ denominator.log2 * 2 ^ guess.toNat) := by
        rw [← pow_add, balance, pow_add, pow_add]
    _ ≤ 2 ^ format.precision * (denominator * 2 ^ guess.toNat) :=
        Nat.mul_le_mul_left _ (Nat.mul_le_mul_right _ (Nat.log2_self_le positive))

/-- A still smaller exponent is less than needed. -/
theorem not_fitsAt_log2 (format : BinaryFormat) (denominator : Nat) (nonzero : numerator ≠ 0) :
    ¬ format.FitsAt numerator denominator
      ((numerator.log2 : Int) - denominator.log2 - format.precision - 1) := by
  set guess : Int := (numerator.log2 : Int) - denominator.log2 - format.precision - 1 with guessed
  have balance : format.precision + (denominator.log2 + 1 + guess.toNat) =
      numerator.log2 + (-guess).toNat := by omega
  refine not_lt.mpr ?_
  calc 2 ^ format.precision * (denominator * 2 ^ guess.toNat)
      ≤ 2 ^ format.precision * (2 ^ (denominator.log2 + 1) * 2 ^ guess.toNat) :=
        Nat.mul_le_mul_left _ (Nat.mul_le_mul_right _ Nat.lt_log2_self.le)
    _ = 2 ^ numerator.log2 * 2 ^ (-guess).toNat := by
        rw [← pow_add, ← pow_add, ← pow_add, balance]
    _ ≤ numerator * 2 ^ (-guess).toNat := Nat.mul_le_mul_right _ (Nat.log2_self_le nonzero)

/-- A quotient fits one exponent below when it leaves the first place of the significand free. -/
theorem fitsAt_pred_iff {exponent : Int} (wide : 0 < format.precision) :
    format.FitsAt numerator denominator (exponent - 1) ↔
      numerator * 2 ^ (-exponent).toNat < 2 ^ (format.precision - 1) * (denominator * 2 ^ exponent.toNat) := by
  have width : 2 ^ format.precision = 2 * 2 ^ (format.precision - 1) := by
    rw [← pow_succ', Nat.sub_add_cancel wide]
  unfold FitsAt
  rcases le_or_gt exponent 0 with small | large
  · have shift : (-(exponent - 1)).toNat = (-exponent).toNat + 1 := by omega
    have whole : (exponent - 1).toNat = exponent.toNat := by omega
    rw [shift, whole, width, pow_succ]
    constructor <;> intro fits <;> linarith
  · have shift : (-(exponent - 1)).toNat = (-exponent).toNat := by omega
    have whole : exponent.toNat = (exponent - 1).toNat + 1 := by omega
    rw [shift, width, whole, pow_succ]
    constructor <;> intro fits <;> linarith

/-- A scaled quotient is below the least full significand when it fits at one exponent less. -/
theorem scaled_lt_iff {exponent : Int} (positive : denominator ≠ 0) (wide : 0 < format.precision) :
    numerator * Nat.pow 2 (-exponent).toNat / (denominator * Nat.pow 2 exponent.toNat) <
        Nat.pow 2 (format.precision - 1) ↔ format.FitsAt numerator denominator (exponent - 1) := by
  have divisor : 0 < denominator * Nat.pow 2 exponent.toNat :=
    Nat.mul_pos (Nat.pos_of_ne_zero positive) (Nat.two_pow_pos _)
  exact (Nat.div_lt_iff_lt_mul divisor).trans (fitsAt_pred_iff wide).symm

/-- A quotient fits at the exponent that is chosen for it. -/
theorem fitsAt_exponentOf (wide : 0 < format.precision) (positive : denominator ≠ 0) :
    format.FitsAt numerator denominator (format.exponentOf numerator denominator) := by
  have guessed := format.fitsAt_log2 numerator positive
  unfold exponentOf
  dsimp only
  refine FitsAt.mono ?_ (le_max_left _ _)
  split_ifs with short
  · exact (scaled_lt_iff positive wide).mp short
  · exact guessed

/-- No smaller exponent of the format is enough. -/
theorem exponentOf_le {exponent : Int} (wide : 0 < format.precision) (nonzero : numerator ≠ 0)
    (positive : denominator ≠ 0) (least : format.leastExponent ≤ exponent)
    (fits : format.FitsAt numerator denominator exponent) :
    format.exponentOf numerator denominator ≤ exponent := by
  unfold exponentOf
  dsimp only
  refine max_le ?_ least
  by_contra! below
  split_ifs at below with short
  · exact format.not_fitsAt_log2 denominator nonzero (fits.mono (by omega))
  · exact short ((scaled_lt_iff positive wide).mpr (fits.mono (by omega)))

/-- A rounded magnitude is one of the format. -/
theorem round_bounds {magnitude : Magnitude} (wide : 0 < format.precision)
    (positive : denominator ≠ 0) (rounded : format.round numerator denominator = some magnitude) :
    magnitude.significand < 2 ^ format.precision ∧ magnitude.exponent ≤ format.greatestExponent := by
  have narrow : format.FitsAt numerator denominator (format.exponentOf numerator denominator) :=
    fitsAt_exponentOf wide positive
  have fits := roundHalfEven_le narrow
  simp only [round, Option.ite_none_right_eq_some, Option.some.injEq] at rounded
  obtain ⟨small, rfl⟩ := rounded
  refine ⟨?_, small⟩
  split_ifs with full
  · exact Nat.pow_lt_pow_right (by decide) (Nat.sub_lt wide (by decide))
  · exact lt_of_le_of_ne fits full

end BinaryFormat

namespace Binary64

/-- The sign does not reach into the exponent. -/
theorem exponentField_ofFields (negative : Bool) {rest : Nat} (fits : rest < 2 ^ 63) :
    (ofFields negative rest).exponentField = rest / 2 ^ 52 := by
  cases negative <;> simp [exponentField, ofFields] <;> omega

/-- Bits below those of infinity make up a finite number. -/
theorem isFinite_ofFields (negative : Bool) {rest : Nat} (below : rest < 2047 * 2 ^ 52) :
    (ofFields negative rest).isFinite = true := by
  rw [isFinite, exponentField_ofFields negative (by omega), bne_iff_ne]
  omega

/-- Infinity of either sign is infinite. -/
theorem isInfinite_infinity (negative : Bool) : (infinity negative).isInfinite = true := by
  cases negative <;> decide

/-- A magnitude of the format has the bits of a finite number. -/
theorem isFinite_ofMagnitude (negative : Bool) {magnitude : Magnitude}
    (narrow : magnitude.significand < 2 ^ 53) (small : magnitude.exponent ≤ 971) :
    (ofMagnitude negative magnitude).isFinite = true := by
  unfold ofMagnitude
  split_ifs with subnormal
  · exact isFinite_ofFields negative (by simp at subnormal; omega)
  · apply isFinite_ofFields
    simp only [Nat.pow_eq] at subnormal ⊢
    omega

/-- The nearest number to a quotient is finite unless the quotient is too large. -/
theorem ofQuotient_finite_or_infinite (negative : Bool) (numerator : Nat) {denominator : Nat}
    (positive : denominator ≠ 0) :
    (ofQuotient negative numerator denominator).isFinite = true ∨
      (ofQuotient negative numerator denominator).isInfinite = true := by
  unfold ofQuotient
  split_ifs with none
  · exact .inl (isFinite_ofFields negative (by decide))
  · split
    · next magnitude rounded =>
      obtain ⟨narrow, small⟩ := BinaryFormat.round_bounds (by decide) positive rounded
      exact .inl (isFinite_ofMagnitude negative narrow small)
    · exact .inr (isInfinite_infinity negative)

/-- Decimal digits never denote a number that is not a number. -/
theorem ofDecimal_finite_or_infinite (negative : Bool) (digits : Nat) (exponent : Int) :
    (ofDecimal negative digits exponent).isFinite = true ∨
      (ofDecimal negative digits exponent).isInfinite = true := by
  unfold ofDecimal
  dsimp only
  split_ifs with none large small
  · exact .inl (isFinite_ofFields negative (by decide))
  · exact .inr (isInfinite_infinity negative)
  · exact .inl (isFinite_ofFields negative (by decide))
  · exact ofQuotient_finite_or_infinite negative _ (Nat.pow_pos (by decide)).ne'

end Binary64

end ParamCodec
