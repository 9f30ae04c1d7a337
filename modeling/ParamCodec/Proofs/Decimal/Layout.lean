import ParamCodec.Decimal.Style
import ParamCodec.Proofs.Decimal.Integers
import ParamCodec.Proofs.Decimal.Spelling
import ParamCodec.Proofs.Text.Digits

namespace ParamCodec

/-- There is a digit, and nothing else. -/
structure Scientific.IsDecimal (number : Scientific) : Prop where
  stands : number.digits ≠ []
  all : number.digits.all Char.isDigit = true

namespace Shortest

namespace Interval

variable {interval : Interval} {tie : Tie}

/-- An interval has the points between its ends, and the ends themselves when it is closed. -/
theorem contains_iff {point : Nat} : interval.contains point = true ↔
    interval.lower ≤ point ∧ point ≤ interval.upper ∧
      (interval.closed = false → interval.lower < point ∧ point < interval.upper) := by
  unfold contains
  split <;> rw [Bool.and_eq_true, decide_eq_true_eq, decide_eq_true_eq]
  · next closed => simp [closed]
  · next isOpen =>
    rw [Bool.not_eq_true] at isOpen
    exact ⟨fun inside => ⟨inside.1.le, inside.2.le, fun _ => inside⟩, fun inside => inside.2.2 isOpen⟩

/-- A point that is taken from a grid is in the interval. -/
theorem contains_onGrid {step point : Nat} (found : interval.onGrid tie step = some point) :
    interval.contains point = true := by
  unfold onGrid at found
  dsimp only at found
  split at found
  · cases found
  · next inside _ =>
    cases found
    exact inside
  · next inside =>
    cases found
    exact inside
  · next below above =>
    split at found
    · cases found
      exact below
    · cases found
      exact above
    · split_ifs at found
      · cases found
        exact below
      · cases found
        exact above

/-- The point on the coarsest grid is one of the interval. -/
theorem contains_coarsest (inside : interval.contains interval.value = true) (power : Nat) :
    interval.contains (interval.coarsest tie power) = true := by
  induction power with
  | zero => exact inside
  | succ power ih =>
      unfold coarsest
      split
      · next found => exact contains_onGrid found
      · exact ih

end Interval

/-- A quarter of the last place is positive. -/
theorem quarter_pos (magnitude : Magnitude) : 0 < quarter magnitude :=
  Nat.mul_pos (Nat.two_pow_pos _) (Nat.pow_pos (by decide))

/-- The interval of a number other than zero has no zero. -/
theorem interval_lower_pos (format : BinaryFormat) {magnitude : Magnitude}
    (nonzero : magnitude.significand ≠ 0) : 0 < (interval format magnitude).lower := by
  refine Nat.mul_pos ?_ (quarter_pos magnitude)
  split_ifs <;> omega

/-- A number other than zero is between the ends of its interval. -/
theorem contains_value (format : BinaryFormat) {magnitude : Magnitude}
    (nonzero : magnitude.significand ≠ 0) :
    (interval format magnitude).contains (interval format magnitude).value = true := by
  have unit := quarter_pos magnitude
  have lower : (interval format magnitude).lower < (interval format magnitude).value := by
    refine Nat.mul_lt_mul_of_pos_right ?_ unit
    split_ifs <;> omega
  have upper : (interval format magnitude).value < (interval format magnitude).upper :=
    Nat.mul_lt_mul_of_pos_right (by omega) unit
  exact Interval.contains_iff.mpr ⟨lower.le, upper.le, fun _ => ⟨lower, upper⟩⟩

/-- The interval of a magnitude other than zero leads to a point other than zero. -/
theorem coarsest_ne_zero (format : BinaryFormat) (tie : Tie) {magnitude : Magnitude}
    (nonzero : magnitude.significand ≠ 0) (power : Nat) :
    (interval format magnitude).coarsest tie power ≠ 0 := by
  have inside : (interval format magnitude).contains
      ((interval format magnitude).coarsest tie power) = true :=
    Interval.contains_coarsest (contains_value format nonzero) power
  exact ((interval_lower_pos format nonzero).trans_le (Interval.contains_iff.mp inside).1).ne'

/-- There is a digit for each number. -/
theorem isDecimal_ofMagnitude (format : BinaryFormat) (tie : Tie) (magnitude : Magnitude) :
    (ofMagnitude format tie magnitude).IsDecimal := by
  unfold ofMagnitude
  dsimp only
  split_ifs with zero
  · exact ⟨List.cons_ne_nil _ _, rfl⟩
  · refine ⟨Text.withoutZeros_ne_nil ?_, Text.withoutZeros_isDigit (Text.decimal_isDigit _)⟩
    rw [Text.decimalValue_decimal]
    exact coarsest_ne_zero format tie zero _

end Shortest

namespace Scientific

open Numeral

variable {number : Scientific}

/-- What the digits denote with the point after the first of them and moved by the exponent. -/
def size (number : Scientific) : ℚ :=
  Text.decimalValue number.digits * 10 ^ (number.exponent - (number.digits.length - 1 : Int))

/-- All places of a number are its digits, with zeros on one side, and at most one point among them. -/
theorem positional_form (decimal : number.IsDecimal) :
    ∃ whole fraction, Mantissa (number.positional []) whole fraction ∧ whole ++ fraction ≠ [] ∧
      (whole ++ fraction).all Char.isDigit = true ∧
      (Text.decimalValue (whole ++ fraction) : ℚ) * 10 ^ (-fraction.length : Int) = number.size := by
  obtain ⟨digits, exponent⟩ := number
  obtain ⟨stands, all⟩ := decimal
  dsimp only at stands all
  unfold positional size
  dsimp only
  split
  · next places =>
    -- The number is below one, and zeros stand behind the point.
    have mantissa : "0.".toList ++ List.replicate places '0' ++ digits =
        ['0'] ++ '.' :: (List.replicate places '0' ++ digits) := List.append_assoc _ _ _
    have zeros : ['0'] ++ (List.replicate places '0' ++ digits) =
        List.replicate (places + 1) '0' ++ digits := rfl
    have scale : -((List.replicate places '0' ++ digits).length : Int) =
        Int.negSucc places - (digits.length - 1 : Int) := by
      rw [List.length_append, List.length_replicate]
      omega
    rw [mantissa]
    refine ⟨['0'], _, .pointed, List.cons_ne_nil _ _, ?_, ?_⟩
    · rw [zeros, List.all_append, all, Text.zeros_isDigit]
      rfl
    · rw [scale, zeros, Text.decimalValue_zeros_append all]
  · next places =>
    split_ifs with whole
    · -- The number is whole, and zeros fill it up to the point.
      have scale : Int.ofNat places - (digits.length - 1 : Int) =
          ((places + 1 - digits.length : Nat) : Int) := by
        rw [Int.ofNat_eq_natCast]
        omega
      rw [List.append_nil]
      refine ⟨_, [], .plain, by simp [stands], ?_, ?_⟩
      · rw [List.append_nil, List.all_append, all, Text.zeros_isDigit]
        rfl
      · rw [scale, zpow_natCast, List.append_nil, Text.decimalValue_append_zeros all]
        push_cast
        rw [List.length_nil, Nat.cast_zero, neg_zero, zpow_zero, mul_one]
    · -- The point stands among the digits.
      have split := List.take_append_drop (places + 1) digits
      have scale : -((digits.drop (places + 1)).length : Int) =
          Int.ofNat places - (digits.length - 1 : Int) := by
        rw [List.length_drop, Int.ofNat_eq_natCast]
        omega
      refine ⟨digits.take (places + 1), digits.drop (places + 1), .pointed, ?_, ?_, ?_⟩
      · rwa [split]
      · rwa [split]
      · rw [split, scale]

/-- The digits of a mantissa are those of the number, one of them in front of the point. -/
theorem mantissa_form (decimal : number.IsDecimal) :
    ∃ whole fraction, Mantissa number.mantissa whole fraction ∧ whole ++ fraction = number.digits ∧
      (fraction.length : Int) = number.digits.length - 1 := by
  unfold mantissa
  split
  · next first second rest same =>
    have pointed : Mantissa ([first] ++ '.' :: second :: rest) [first] (second :: rest) := .pointed
    exact ⟨[first], second :: rest, pointed, same.symm, by simp [same]⟩
  · next single =>
    obtain ⟨digit, rest, same⟩ := List.exists_cons_of_ne_nil decimal.stands
    cases rest with
    | nil => exact ⟨number.digits, [], .plain, List.append_nil _, by simp [same]⟩
    | cons second rest => exact absurd same (single digit second rest)

/-- The mantissa and the exponent behind an `e` are a numeral for the number. -/
theorem spells_power (decimal : number.IsDecimal) {power : Text} (form : Power power number.exponent) :
    ∃ parts, Spells (number.mantissa ++ power) parts ∧ (parts.digits : ℚ) * 10 ^ parts.scale = number.size := by
  obtain ⟨whole, fraction, mantissa, same, length⟩ := mantissa_form decimal
  refine ⟨⟨whole, fraction, number.exponent⟩, ⟨⟨_, _, rfl, mantissa, form⟩, ?_, ?_⟩, ?_⟩
  · rw [same]
    exact decimal.stands
  · rw [same]
    exact decimal.all
  · rw [Parts.digits, Parts.scale, same, length, size]

/-- An exponent is written with its sign in front of its size. -/
theorem power_written {exponent : Int} {sign digits : Text} (isSign : Grammar.Number.IsSign sign)
    (minus : sign = ['-'] ↔ exponent < 0) (stands : digits ≠ []) (all : digits.all Char.isDigit = true)
    (size : Text.decimalValue digits = exponent.natAbs) : Power ('e' :: (sign ++ digits)) exponent := by
  have power := Power.written (.inl rfl : 'e' = 'e' ∨ 'e' = 'E') isSign stands all
  have means : signed sign (exponent.natAbs : Int) = exponent := by
    unfold signed
    split_ifs with written
    · have negative := minus.mp written
      omega
    · have nonneg := minus.not.mp written
      omega
  rwa [size, means] at power

/-- The form with an exponent spells digits and a scale that denote the number. -/
theorem exponential_spells (decimal : number.IsDecimal) (width : Nat) :
    ∃ parts, Spells (number.exponential width) parts ∧
      (parts.digits : ℚ) * 10 ^ parts.scale = number.size := by
  have stands : Text.padLeft width (Text.decimal number.exponent.natAbs) ≠ [] := by
    obtain ⟨digit, digits, same, _⟩ := Text.decimal_head number.exponent.natAbs
    simp [Text.padLeft, same]
  have isSign : Grammar.Number.IsSign [if number.exponent < 0 then '-' else '+'] := by
    split_ifs
    · exact .inr (.inr rfl)
    · exact .inr (.inl rfl)
  have minus : [if number.exponent < 0 then '-' else '+'] = ['-'] ↔ number.exponent < 0 := by
    split_ifs with negative <;> simp [negative]
  exact spells_power decimal
    (power_written isSign minus stands (Text.padLeft_isDigit _ _) (Text.decimalValue_padLeft _ _))

/-- The form with a plain exponent spells digits and a scale that denote the number. -/
theorem plainExponential_spells (decimal : number.IsDecimal) :
    ∃ parts, Spells number.plainExponential parts ∧
      (parts.digits : ℚ) * 10 ^ parts.scale = number.size := by
  obtain ⟨sign, isSign, form, minus⟩ := signedDecimal_form number.exponent
  have stands : Text.decimal number.exponent.natAbs ≠ [] := Nat.toDigits_ne_nil
  have power := power_written isSign minus stands (Text.decimal_isDigit _) (Text.decimalValue_decimal _)
  rw [← form] at power
  exact spells_power decimal power

/-- The form with all places spells digits and a scale that denote the number. -/
theorem positional_spells (decimal : number.IsDecimal) :
    ∃ parts, Spells (number.positional []) parts ∧
      (parts.digits : ℚ) * 10 ^ parts.scale = number.size := by
  obtain ⟨whole, fraction, mantissa, stands, all, denotes⟩ := positional_form decimal
  refine ⟨⟨whole, fraction, 0⟩, ⟨⟨_, [], (List.append_nil _).symm, mantissa, .none⟩, stands, all⟩, ?_⟩
  rw [← denotes, Parts.digits, Parts.scale, zero_sub]

end Scientific

end ParamCodec
