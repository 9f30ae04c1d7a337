import ParamCodec.Text.Digits
import Mathlib.Data.List.DropRight
import Mathlib.Tactic

namespace ParamCodec.Text

/-- Decimal digits are the digits of base ten. -/
theorem digitValue?_of_isDigit {letter : Char} (digit : letter.isDigit = true) :
    digitValue? 10 letter = some (letter.toNat - '0'.toNat) := by
  have range : 48 ≤ letter.toNat ∧ letter.toNat ≤ 57 := by
    simp only [Char.isDigit, Bool.and_eq_true, decide_eq_true_eq] at digit
    exact digit
  have small : letter.toNat - 48 < 10 := by omega
  simp [digitValue?, digit, small]

/-- The value of decimal digits is that of the library. -/
theorem decimalValue_eq_ofDigitChars {digits : Text} (all : digits.all Char.isDigit = true) :
    decimalValue digits = Nat.ofDigitChars 10 digits 0 := by
  rw [decimalValue, Nat.ofDigitChars_eq_foldl]
  refine List.foldl_ext _ _ _ fun value letter member => ?_
  rw [digitValue?_of_isDigit (List.all_eq_true.mp all letter member), Nat.mul_comm]
  rfl

/-- A decimal numeral consists of digits. -/
theorem decimal_isDigit (value : Nat) : (decimal value).all Char.isDigit = true :=
  List.all_eq_true.mpr fun _ member => Nat.isDigit_of_mem_toDigits (by decide) (by decide) member

/-- A decimal numeral starts with a digit. -/
theorem decimal_head (value : Nat) :
    ∃ digit digits, decimal value = digit :: digits ∧ digit.isDigit = true := by
  have all := decimal_isDigit value
  obtain ⟨digit, digits, same⟩ := List.exists_cons_of_ne_nil
    (show decimal value ≠ [] from Nat.toDigits_ne_nil)
  rw [same, List.all_cons, Bool.and_eq_true] at all
  exact ⟨digit, digits, same, all.1⟩

/-- The digits of a numeral denote its number. -/
theorem decimalValue_decimal (value : Nat) : decimalValue (decimal value) = value :=
  (decimalValue_eq_ofDigitChars (decimal_isDigit value)).trans Nat.ofDigitChars_ten_toDigits

/-- Digits behind others make room for themselves by a power of ten. -/
theorem decimalValue_append {digits more : Text} (all : (digits ++ more).all Char.isDigit = true) :
    decimalValue (digits ++ more) = decimalValue digits * 10 ^ more.length + decimalValue more := by
  have both : digits.all Char.isDigit = true ∧ more.all Char.isDigit = true := by
    rwa [List.all_append, Bool.and_eq_true] at all
  rw [decimalValue_eq_ofDigitChars all, decimalValue_eq_ofDigitChars both.1,
    decimalValue_eq_ofDigitChars both.2, Nat.ofDigitChars_append,
    Nat.ofDigitChars_eq_ofDigitChars_zero, Nat.mul_comm]

/-- Zeros are digits. -/
theorem zeros_isDigit (count : Nat) : (List.replicate count '0').all Char.isDigit = true := by
  rw [List.all_eq_true]
  intro letter member
  rw [List.eq_of_mem_replicate member]
  rfl

/-- A numeral filled up with zeros consists of digits. -/
theorem padLeft_isDigit (width value : Nat) : (padLeft width (decimal value)).all Char.isDigit = true := by
  rw [padLeft, List.all_append, decimal_isDigit, Bool.and_true]
  exact zeros_isDigit _

/-- Zeros in front do not change the number. -/
theorem decimalValue_padLeft (width value : Nat) : decimalValue (padLeft width (decimal value)) = value := by
  rw [decimalValue_eq_ofDigitChars (padLeft_isDigit width value), padLeft, Nat.ofDigitChars_append,
    Nat.ofDigitChars_replicate_zero, Nat.mul_zero, decimal, Nat.ofDigitChars_ten_toDigits]

/-- A number with no more digits than the width is filled up to it. -/
theorem length_padLeft {width value : Nat} (stands : 0 < width) (small : value < 10 ^ width) :
    (padLeft width (decimal value)).length = width := by
  have short : (decimal value).length ≤ width := (Nat.length_toDigits_le_iff (by decide) stands).mpr small
  rw [padLeft, List.length_append, List.length_replicate, Nat.sub_add_cancel short]

/-- A digit denotes nine at most. -/
theorem decimalValue_digit {digit : Char} (isDigit : digit.isDigit = true) : decimalValue [digit] ≤ 9 := by
  have range : digit.toNat ≤ 57 := (Char.isDigit_iff_toNat.mp isDigit).2
  have value : decimalValue [digit] = 0 * 10 + (digitValue? 10 digit).getD 0 := rfl
  rw [value, digitValue?_of_isDigit isDigit, Option.getD_some, Nat.zero_mul, Nat.zero_add]
  exact Nat.sub_le_sub_right range 48

/-- Digits denote less than the power of ten of their number. -/
theorem decimalValue_lt {digits : Text} (all : digits.all Char.isDigit = true) :
    decimalValue digits < 10 ^ digits.length := by
  induction digits with
  | nil => decide
  | cons digit digits ih =>
      have both := Bool.and_eq_true_iff.mp all
      have first := decimalValue_digit both.1
      have rest := ih both.2
      rw [← List.singleton_append, decimalValue_append all, List.singleton_append, List.length_cons,
        Nat.pow_succ']
      have scaled := Nat.mul_le_mul_right (10 ^ digits.length) first
      omega

/-- Zeros denote zero. -/
theorem decimalValue_zeros (count : Nat) : decimalValue (List.replicate count '0') = 0 := by
  rw [decimalValue_eq_ofDigitChars (zeros_isDigit count), Nat.ofDigitChars_replicate_zero, Nat.mul_zero]

/-- The number that digits behind a point denote. -/
def fraction (digits : Text) : ℚ := decimalValue digits / 10 ^ digits.length

/-- The digits without zeros at their end, and these zeros. -/
theorem eq_append_zeros (digits : Text) :
    ∃ count, digits = (digits.reverse.dropWhile (· == '0')).reverse ++ List.replicate count '0' := by
  refine ⟨(digits.rtakeWhile (· == '0')).length, ?_⟩
  have zeros : digits.rtakeWhile (· == '0') =
      List.replicate (digits.rtakeWhile (· == '0')).length '0' := by
    refine List.eq_replicate_of_mem fun letter member => ?_
    have zero := List.mem_rtakeWhile_imp member
    exact beq_iff_eq.mp zero
  rw [← zeros]
  exact List.rdropWhile_append_rtakeWhile.symm

/-- Digits without the zeros at their end are digits. -/
theorem withoutZeros_isDigit {digits : Text} (all : digits.all Char.isDigit = true) :
    (digits.reverse.dropWhile (· == '0')).reverse.all Char.isDigit = true := by
  obtain ⟨count, same⟩ := eq_append_zeros digits
  rw [same, List.all_append, Bool.and_eq_true] at all
  exact all.1

/-- Digits of a number other than zero do not consist of zeros. -/
theorem withoutZeros_ne_nil {digits : Text} (nonzero : decimalValue digits ≠ 0) :
    (digits.reverse.dropWhile (· == '0')).reverse ≠ [] := by
  intro none
  obtain ⟨count, same⟩ := eq_append_zeros digits
  rw [none, List.nil_append] at same
  exact nonzero (same ▸ decimalValue_zeros count)

/-- Digits behind zeros denote what they denote alone. -/
theorem decimalValue_zeros_append {digits : Text} (all : digits.all Char.isDigit = true) (count : Nat) :
    decimalValue (List.replicate count '0' ++ digits) = decimalValue digits := by
  have both : (List.replicate count '0' ++ digits).all Char.isDigit = true := by
    rw [List.all_append, zeros_isDigit, all]
    rfl
  rw [decimalValue_append both, decimalValue_zeros, Nat.zero_mul, Nat.zero_add]

/-- Zeros behind digits are a power of ten. -/
theorem decimalValue_append_zeros {digits : Text} (all : digits.all Char.isDigit = true) (count : Nat) :
    decimalValue (digits ++ List.replicate count '0') = decimalValue digits * 10 ^ count := by
  have both : (digits ++ List.replicate count '0').all Char.isDigit = true := by
    rw [List.all_append, zeros_isDigit, all]
    rfl
  rw [decimalValue_append both, decimalValue_zeros, List.length_replicate, Nat.add_zero]

/-- The zeros at the end of digits, and what the digits before them denote. -/
theorem decimalValue_withoutZeros {digits : Text} (all : digits.all Char.isDigit = true) :
    ∃ count, digits.length = (digits.reverse.dropWhile (· == '0')).reverse.length + count ∧
      decimalValue digits = decimalValue (digits.reverse.dropWhile (· == '0')).reverse * 10 ^ count := by
  have kept := withoutZeros_isDigit all
  obtain ⟨count, same⟩ := eq_append_zeros digits
  generalize (digits.reverse.dropWhile (· == '0')).reverse = significant at same kept ⊢
  subst same
  exact ⟨count, by rw [List.length_append, List.length_replicate], decimalValue_append_zeros kept count⟩

/-- Zeros at the end of a fraction do not count. -/
theorem fraction_withoutZeros {digits : Text} (all : digits.all Char.isDigit = true) :
    fraction (digits.reverse.dropWhile (· == '0')).reverse = fraction digits := by
  obtain ⟨count, length, same⟩ := decimalValue_withoutZeros all
  have power : (10 : ℚ) ^ count ≠ 0 := by positivity
  rw [fraction, fraction, length, same, pow_add, Nat.cast_mul, Nat.cast_pow, Nat.cast_ofNat,
    mul_div_mul_right _ _ power]

/-- A number other than zero is bounded by the powers of ten around its digits. -/
theorem decimal_bounds {value : Nat} (nonzero : value ≠ 0) :
    10 ^ ((decimal value).length - 1) ≤ value ∧ value < 10 ^ (decimal value).length := by
  have stands : 0 < (decimal value).length := List.length_pos_iff.mpr Nat.toDigits_ne_nil
  refine ⟨?_, (Nat.length_toDigits_le_iff (by decide) stands).mp le_rfl⟩
  rcases Nat.eq_zero_or_pos ((decimal value).length - 1) with single | more
  · rw [single]
    exact Nat.pos_of_ne_zero nonzero
  · by_contra! small
    have shorter := (Nat.length_toDigits_le_iff (by decide) more).mpr small
    rw [← decimal] at shorter
    omega

/-- A scaled number is bounded by the powers of ten around its digits and its scale. -/
theorem scaled_bounds {value : Nat} (nonzero : value ≠ 0) (exponent : Int) :
    (10 : ℚ) ^ (exponent + (decimal value).length - 1) ≤ value * 10 ^ exponent ∧
      (value : ℚ) * 10 ^ exponent < 10 ^ (exponent + (decimal value).length) := by
  obtain ⟨least, greatest⟩ := decimal_bounds nonzero
  have stands : 0 < (decimal value).length := List.length_pos_iff.mpr Nat.toDigits_ne_nil
  have power : (0 : ℚ) < 10 ^ exponent := by positivity
  have ten : (10 : ℚ) ≠ 0 := by norm_num
  constructor
  · have split : exponent + (decimal value).length - 1 = ((decimal value).length - 1 : Nat) + exponent := by
      omega
    rw [split, zpow_add₀ ten, zpow_natCast]
    exact mul_le_mul_of_nonneg_right (by exact_mod_cast least) power.le
  · rw [add_comm, zpow_add₀ ten, zpow_natCast]
    exact mul_lt_mul_of_pos_right (by exact_mod_cast greatest) power

/-- The digits below sixteen are those of the lower case alphabet. -/
theorem digitChar_lowerCase : ∀ digit < 16,
    "0123456789abcdef".toList[digit]? = some (Nat.digitChar digit) := by decide

/-- A digit below sixteen is read as its value. -/
theorem digitValue?_digitChar : ∀ digit < 16, digitValue? 16 (Nat.digitChar digit) = some digit := by
  decide

/-- A number below sixteen is one digit. -/
theorem hexadecimal_one {value : Nat} (small : value < 16) :
    hexadecimal 1 value = [Nat.digitChar value] := by
  rw [hexadecimal, Nat.toDigits_of_lt_base small]
  rfl

/-- The last digit is the remainder, and the digits before it are the numeral of the quotient. -/
theorem hexadecimal_succ {width : Nat} (stands : 0 < width) (value : Nat) :
    hexadecimal (width + 1) value = hexadecimal width (value / 16) ++ [Nat.digitChar (value % 16)] := by
  unfold hexadecimal padLeft
  rcases Nat.lt_or_ge value 16 with small | large
  · obtain ⟨width, rfl⟩ := Nat.exists_eq_add_one.mpr stands
    rw [Nat.div_eq_of_lt small, Nat.mod_eq_of_lt small, Nat.toDigits_of_lt_base small,
      Nat.toDigits_of_lt_base (show 0 < 16 by decide)]
    -- The quotient is zero, whose one digit is one of the zeros that fill up the numeral.
    change List.replicate (width + 1) '0' ++ [_] = List.replicate width '0' ++ ['0'] ++ [_]
    rw [List.replicate_succ']
  · rw [Nat.toDigits_of_base_le (by decide) large, List.length_append, List.length_singleton,
      Nat.add_sub_add_right, List.append_assoc]

/-- One more digit than a number needs is a zero in front. -/
theorem hexadecimal_fill {width value : Nat} (stands : 0 < width) (small : value < 16 ^ width) :
    hexadecimal (width + 1) value = '0' :: hexadecimal width value := by
  have short : (Nat.toDigits 16 value).length ≤ width :=
    (Nat.length_toDigits_le_iff (by decide) stands).mpr small
  rw [hexadecimal, hexadecimal, padLeft, padLeft, Nat.succ_sub short, List.replicate_succ,
    List.cons_append]

/-- A number below 256 is written as two digits of the lower case alphabet: its quotient by sixteen
and the remainder. -/
theorem hexadecimal_two {value : Nat} (small : value < 256) :
    ∃ high low, hexadecimal 2 value = [high, low] ∧
      "0123456789abcdef".toList[value / 16]? = some high ∧
      "0123456789abcdef".toList[value % 16]? = some low := by
  have quotient : value / 16 < 16 := Nat.div_lt_of_lt_mul small
  have remainder : value % 16 < 16 := Nat.mod_lt _ (by decide)
  refine ⟨_, _, ?_, digitChar_lowerCase _ quotient, digitChar_lowerCase _ remainder⟩
  rw [hexadecimal_succ (by decide), hexadecimal_one quotient, List.singleton_append]

/-- A byte is written as two lower case digits. -/
theorem hexadecimal_byte (byte : UInt8) :
    ∃ high low, hexadecimal 2 byte.toNat = [high, low] ∧
      "0123456789abcdef".toList[byte.toNat / 16]? = some high ∧
      "0123456789abcdef".toList[byte.toNat % 16]? = some low :=
  hexadecimal_two byte.toNat_lt

end ParamCodec.Text
