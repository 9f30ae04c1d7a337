import ParamCodec.Decimal.Numeral
import ParamCodec.Proofs.Grammar.Numbers
import ParamCodec.Proofs.Text.Digits

namespace ParamCodec.Numeral

open Grammar Grammar.Number

/-- The number that digits in a base denote behind those already read. -/
def digitsValue (radix start : Nat) (digits : Text) : Nat :=
  digits.foldl (fun value letter => value * radix + (Text.digitValue? radix letter).getD 0) start

/-- The integer that an optional sign and digits in a base denote, of any size. -/
def denoted (radix : Nat) (text : Text) : Int :=
  let (sign, digits) := Text.splitSign text
  if sign = ['-'] then -(digitsValue radix 0 digits : Int) else digitsValue radix 0 digits

/-- The first digit is added to what was read, moved by one place. -/
theorem digitsValue_cons {radix start digit : Nat} {letter : Char} (digits : Text)
    (isDigit : Text.digitValue? radix letter = some digit) :
    digitsValue radix start (letter :: digits) = digitsValue radix (start * radix + digit) digits := by
  rw [digitsValue, List.foldl_cons, isDigit]
  rfl

/-- More digits never make the number smaller. -/
theorem le_digitsValue {radix : Nat} (positive : 0 < radix) (start : Nat) (digits : Text) :
    start ≤ digitsValue radix start digits := by
  induction digits generalizing start with
  | nil => exact Nat.le_refl start
  | cons letter digits ih =>
      refine Nat.le_trans ?_ (ih (start * radix + (Text.digitValue? radix letter).getD 0))
      exact Nat.le_add_right_of_le (Nat.le_mul_of_pos_right start positive)

/-- Digits that are read denote what was read, and not more than the limit. -/
theorem accumulate_sound {radix limit start result : Nat} {fault : NumeralFault} {digits : Text}
    (read : accumulate radix limit fault start digits = .ok result) :
    result = digitsValue radix start digits ∧ (start ≤ limit → result ≤ limit) := by
  induction digits generalizing start with
  | nil =>
      cases read
      exact ⟨rfl, id⟩
  | cons letter digits ih =>
      rw [accumulate] at read
      split at read
      · cases read
      · next digit isDigit =>
        split at read
        · cases read
        · next small =>
          obtain ⟨same, bounded⟩ := ih read
          rw [digitsValue_cons digits isDigit]
          exact ⟨same, fun _ => bounded (Nat.le_of_not_lt small)⟩

/-- Digits that denote no more than the limit are read. -/
theorem accumulate_complete {radix limit : Nat} (positive : 0 < radix) (fault : NumeralFault)
    {digits : Text} (valid : ∀ letter ∈ digits, (Text.digitValue? radix letter).isSome = true)
    {start : Nat} (small : digitsValue radix start digits ≤ limit) :
    accumulate radix limit fault start digits = .ok (digitsValue radix start digits) := by
  induction digits generalizing start with
  | nil => rfl
  | cons letter digits ih =>
      rw [List.forall_mem_cons] at valid
      obtain ⟨digit, isDigit⟩ := Option.isSome_iff_exists.mp valid.1
      rw [digitsValue_cons digits isDigit] at small ⊢
      have within := Nat.le_trans (le_digitsValue positive _ digits) small
      rw [accumulate, isDigit]
      dsimp only
      rw [if_neg (Nat.not_lt_of_le within), ih valid.2 small]

/-- Digits that denote more than the limit are not read. -/
theorem accumulate_exceeds {radix limit : Nat} (fault : NumeralFault) {digits : Text}
    (valid : ∀ letter ∈ digits, (Text.digitValue? radix letter).isSome = true)
    {start : Nat} (within : start ≤ limit) (large : limit < digitsValue radix start digits) :
    accumulate radix limit fault start digits = .error fault := by
  induction digits generalizing start with
  | nil => exact absurd large (Nat.not_lt_of_le within)
  | cons letter digits ih =>
      rw [List.forall_mem_cons] at valid
      obtain ⟨digit, isDigit⟩ := Option.isSome_iff_exists.mp valid.1
      rw [digitsValue_cons digits isDigit] at large
      rw [accumulate, isDigit]
      dsimp only
      split
      · rfl
      · next small => exact ih valid.2 (Nat.le_of_not_lt small) large

/-- A changed result is the change of a result. -/
theorem map_eq_ok_iff {ε α β : Type} {first : Except ε α} {change : α → β} {result : β} :
    first.map change = .ok result ↔ ∃ value, first = .ok value ∧ change value = result := by
  cases first <;> simp [Except.map]

/-- Behind the sign the size is read; its limit depends on the sign. -/
theorem integer_eq_map {radix : Nat} {text sign digits : Text}
    (split : Text.splitSign text = (sign, digits)) (stands : digits ≠ []) :
    integer radix text =
      if sign = ['-'] then
        (accumulate radix (2 ^ 63) .tooSmall 0 digits).map fun size : Nat => -(size : Int)
      else (accumulate radix (2 ^ 63 - 1) .tooLarge 0 digits).map Int.ofNat := by
  obtain ⟨letter, digits, rfl⟩ := List.exists_cons_of_ne_nil stands
  have limit : Nat.pow 2 63 = 2 ^ 63 := rfl
  rw [integer, split, limit]
  cases sign with
  | nil =>
      dsimp only
      cases accumulate radix (2 ^ 63 - 1) .tooLarge 0 (letter :: digits) <;> rfl
  | cons mark sign =>
      dsimp only
      split
      · cases accumulate radix (2 ^ 63) .tooSmall 0 (letter :: digits) <;> rfl
      · cases accumulate radix (2 ^ 63 - 1) .tooLarge 0 (letter :: digits) <;> rfl

/-- An integer that is read is the one that its text denotes, and has 64 bits. -/
theorem integer_sound {radix : Nat} {text : Text} {result : Int} (read : integer radix text = .ok result) :
    result = denoted radix text ∧ -2 ^ 63 ≤ result ∧ result < 2 ^ 63 := by
  obtain ⟨⟨sign, digits⟩, split⟩ : ∃ pair, Text.splitSign text = pair := ⟨_, rfl⟩
  rw [denoted, split]
  by_cases stands : digits = []
  · rw [integer, split, stands] at read
    cases sign <;> cases read
  · rw [integer_eq_map split stands] at read
    dsimp only
    split at read
    · next minus =>
      obtain ⟨size, accumulated, rfl⟩ := map_eq_ok_iff.mp read
      obtain ⟨rfl, bounded⟩ := accumulate_sound accumulated
      have small := bounded (Nat.zero_le _)
      rw [if_pos minus]
      exact ⟨rfl, by omega, by omega⟩
    · next plus =>
      obtain ⟨size, accumulated, rfl⟩ := map_eq_ok_iff.mp read
      obtain ⟨rfl, bounded⟩ := accumulate_sound accumulated
      have small := bounded (Nat.zero_le _)
      rw [if_neg plus, Int.ofNat_eq_natCast]
      exact ⟨rfl, by omega, by omega⟩

/-- A sign and digits are read as the integer that they denote, unless it has more than 64 bits. -/
theorem integer_eq_ite {radix : Nat} {sign digits : Text} (positive : 0 < radix) (signed : IsSign sign)
    (unsigned : EndsRun isSignMark digits) (stands : digits ≠ [])
    (valid : ∀ letter ∈ digits, (Text.digitValue? radix letter).isSome = true) :
    integer radix (sign ++ digits) =
      if denoted radix (sign ++ digits) < -2 ^ 63 then .error .tooSmall
      else if 2 ^ 63 ≤ denoted radix (sign ++ digits) then .error .tooLarge
      else .ok (denoted radix (sign ++ digits)) := by
  have split := splitSign_append signed unsigned
  have means : denoted radix (sign ++ digits) =
      if sign = ['-'] then -(digitsValue radix 0 digits : Int) else digitsValue radix 0 digits := by
    rw [denoted, split]
  rw [integer_eq_map split stands]
  -- The reader counts up to the bound of the sign, which is one more below zero than above.
  by_cases minus : sign = ['-']
  · rw [if_pos minus] at means
    rw [if_pos minus, means]
    by_cases large : 2 ^ 63 < digitsValue radix 0 digits
    · rw [accumulate_exceeds _ valid (Nat.zero_le _) large, if_pos (by omega)]
      rfl
    · rw [accumulate_complete positive _ valid (Nat.le_of_not_lt large), if_neg (by omega),
        if_neg (by omega)]
      rfl
  · rw [if_neg minus] at means
    rw [if_neg minus, means]
    by_cases large : 2 ^ 63 - 1 < digitsValue radix 0 digits
    · rw [accumulate_exceeds _ valid (Nat.zero_le _) large, if_neg (by omega), if_pos (by omega)]
      rfl
    · rw [accumulate_complete positive _ valid (Nat.le_of_not_lt large), if_neg (by omega),
        if_neg (by omega)]
      rfl

/-- The decimal numeral of a number denotes it. -/
theorem digitsValue_decimal (value : Nat) : digitsValue 10 0 (Text.decimal value) = value :=
  Text.decimalValue_decimal value

/-- An integer is written with its sign in front of its size. -/
theorem signedDecimal_form (value : Int) :
    ∃ sign, IsSign sign ∧ Text.signedDecimal value = sign ++ Text.decimal value.natAbs ∧
      (sign = ['-'] ↔ value < 0) := by
  unfold Text.signedDecimal
  split_ifs with negative
  · exact ⟨['-'], .inr (.inr rfl), rfl, iff_of_true rfl negative⟩
  · exact ⟨[], .inl rfl, rfl, iff_of_false nofun negative⟩

/-- The numeral of an integer of any size denotes it. -/
theorem denoted_signedDecimal (value : Int) : denoted 10 (Text.signedDecimal value) = value := by
  obtain ⟨sign, isSign, form, minus⟩ := signedDecimal_form value
  rw [form, denoted, splitSign_append isSign (digits_unsigned (Text.decimal_isDigit value.natAbs))]
  dsimp only
  rw [digitsValue_decimal]
  split_ifs with written
  · have negative := minus.mp written
    omega
  · have nonneg := minus.not.mp written
    omega

/-- The decimal numeral of an integer of 64 bits is read as that integer. -/
theorem integer_signedDecimal {value : Int} (above : -2 ^ 63 ≤ value) (below : value < 2 ^ 63) :
    integer 10 (Text.signedDecimal value) = .ok value := by
  obtain ⟨sign, isSign, form, _⟩ := signedDecimal_form value
  have all := Text.decimal_isDigit value.natAbs
  have valid : ∀ letter ∈ Text.decimal value.natAbs, (Text.digitValue? 10 letter).isSome = true := by
    intro letter member
    rw [Text.digitValue?_of_isDigit (List.all_eq_true.mp all letter member)]
    rfl
  have read := integer_eq_ite (by decide) isSign (digits_unsigned all) Nat.toDigits_ne_nil valid
  rwa [← form, denoted_signedDecimal, if_neg (not_lt.mpr above), if_neg (not_le.mpr below)] at read

end ParamCodec.Numeral
