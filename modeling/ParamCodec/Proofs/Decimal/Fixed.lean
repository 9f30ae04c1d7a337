import ParamCodec.Decimal.Fixed
import ParamCodec.Proofs.Decimal.Spelling
import ParamCodec.Proofs.Text.Digits

namespace ParamCodec

namespace Fixed

open Grammar.Number Numeral

/-- The number that digits denote. -/
def number (digits : List (Fin 10)) : Nat := Text.decimalValue (digits.map letter)

theorem letter_isDigit (digit : Fin 10) : (letter digit).isDigit = true := by
  rw [letter, Nat.isDigit_digitChar]
  exact decide_eq_true digit.isLt

/-- The letters of digits are digits. -/
theorem letters_isDigit (digits : List (Fin 10)) : (digits.map letter).all Char.isDigit = true := by
  rw [List.all_map, List.all_eq_true]
  exact fun digit _ => letter_isDigit digit

/-- A digit that is read is written as it was. -/
theorem letter_digit {letter : Char} (isDigit : letter.isDigit = true) :
    Fixed.letter (digit letter) = letter := by
  have range : 48 ≤ letter.toNat ∧ letter.toNat ≤ 57 :=
    (Bool.and_eq_true_iff.mp isDigit).imp of_decide_eq_true of_decide_eq_true
  have each : ∀ place < 10, Fixed.letter (digit (Char.ofNat (48 + place))) = Char.ofNat (48 + place) := by
    decide
  have same := each (letter.toNat - 48) (by omega)
  rwa [Nat.add_sub_cancel' range.1, Char.ofNat_toNat] at same

/-- Digits that are read are written as they were. -/
theorem letters_digits {text : Text} (all : text.all Char.isDigit = true) :
    (text.map digit).map letter = text := by
  have same : text.map (letter ∘ digit) = text.map id := List.map_congr_left fun found member =>
    letter_digit (List.all_eq_true.mp all found member)
  rw [List.map_map, same, List.map_id]

/-- Digits behind others make room for themselves by a power of ten. -/
theorem number_append (high low : List (Fin 10)) :
    number (high ++ low) = number high * 10 ^ low.length + number low := by
  have all := letters_isDigit (high ++ low)
  rw [List.map_append] at all
  rw [number, List.map_append, Text.decimalValue_append all, List.length_map]
  rfl

theorem number_singleton (digit : Fin 10) : number [digit] = digit := by
  revert digit
  decide

/-- The first digit counts by the power of ten of those behind it. -/
theorem number_cons (digit : Fin 10) (digits : List (Fin 10)) :
    number (digit :: digits) = digit * 10 ^ digits.length + number digits := by
  rw [← List.singleton_append, number_append, number_singleton]

/-- Digits denote less than the power of ten of their number. -/
theorem number_lt (digits : List (Fin 10)) : number digits < 10 ^ digits.length := by
  have small := Text.decimalValue_lt (letters_isDigit digits)
  rwa [List.length_map] at small

/-- Zeros denote zero. -/
theorem number_zeros (count : Nat) : number (List.replicate count 0) = 0 := by
  induction count with
  | zero => rfl
  | succ count ih => rw [List.replicate_succ, number_cons, ih, Fin.val_zero, Nat.zero_mul]

/-- Zeros in front of digits do not count. -/
theorem number_significant (digits : List (Fin 10)) :
    number (digits.dropWhile (· = 0)) = number digits := by
  induction digits with
  | nil => rfl
  | cons digit digits ih =>
      by_cases zero : digit = 0
      · subst zero
        rw [List.dropWhile_cons_of_pos (by rfl), ih, number_cons, Fin.val_zero, Nat.zero_mul,
          Nat.zero_add]
      · rw [List.dropWhile_cons_of_neg (by simpa using zero)]

/-- Adding one to the last digit adds one to the number, a carry counted in. -/
theorem increment_spec (digits : List (Fin 10)) :
    (increment digits).2.length = digits.length ∧
      (if (increment digits).1 then 10 ^ digits.length else 0) + number (increment digits).2 =
        number digits + 1 := by
  induction digits with
  | nil => exact ⟨rfl, rfl⟩
  | cons first others ih =>
      rw [increment]
      -- The carry of the digits behind decides what becomes of the first one.
      generalize increment others = result at ih
      obtain ⟨carry, others'⟩ := result
      obtain ⟨length, sum⟩ := ih
      dsimp only at length sum
      cases carry with
      | false =>
          rw [if_neg Bool.false_ne_true, Nat.zero_add] at sum
          refine ⟨congrArg (· + 1) length, ?_⟩
          rw [number_cons, number_cons, length, sum]
          simp [Nat.add_assoc]
      | true =>
          rw [if_pos rfl] at sum
          by_cases nine : first = 9
          · subst nine
            refine ⟨congrArg (· + 1) length, ?_⟩
            simp only [if_true, number_cons, List.length_cons, Nat.pow_succ]
            simp
            omega
          · have next : (first + 1).val = first.val + 1 := by
              revert nine first
              decide
            simp only [if_neg nine]
            refine ⟨congrArg (· + 1) length, ?_⟩
            rw [number_cons, number_cons, length, next, Nat.succ_mul]
            simp
            omega

/-- One more in the last place keeps the number of places. -/
theorem Pointed.next_length {value : Pointed} (nine : value.digits.length = value.point + places) :
    value.next.digits.length = value.next.point + places := by
  have length := (increment_spec value.digits).1
  rw [Pointed.next]
  generalize increment value.digits = result at length
  obtain ⟨carry, digits⟩ := result
  dsimp only at length
  cases carry with
  | true =>
      dsimp only
      rw [List.length_cons, length, nine]
      omega
  | false => exact length.trans nine

/-- One more in the last place is one more unit. -/
theorem number_next (value : Pointed) : number value.next.digits = number value.digits + 1 := by
  obtain ⟨length, sum⟩ := increment_spec value.digits
  rw [Pointed.next]
  generalize increment value.digits = result at length sum
  obtain ⟨carry, digits⟩ := result
  dsimp only at length sum
  cases carry with
  | true =>
      dsimp only
      rw [if_pos rfl] at sum
      rw [number_cons, length, ← sum]
      simp
  | false => simpa using sum

/-- Digits are cut off or filled up to nine places. -/
theorem Pointed.cut_length (value : Pointed) :
    value.cut.digits.length = value.cut.point + places := by
  simp only [Pointed.cut, List.length_append, List.length_take, List.length_replicate]
  omega

/-- A rounded number has nine places. -/
theorem Pointed.rounded_length (value : Pointed) :
    value.rounded.digits.length = value.rounded.point + places := by
  unfold Pointed.rounded
  split
  · exact Pointed.next_length value.cut_length
  · exact value.cut_length

/-- A half is rounded up, so that the first digit behind the whole part decides. -/
theorem floor_add_half {whole digit : Nat} {value : ℚ} (small : digit < 10)
    (lower : whole + (digit : ℚ) / 10 ≤ value) (upper : value < whole + ((digit : ℚ) + 1) / 10) :
    ⌊value + 1 / 2⌋ = (whole + if 5 ≤ digit then 1 else 0 : Nat) := by
  rw [Int.floor_eq_iff]
  have bound : (digit : ℚ) + 1 ≤ 10 := by exact_mod_cast small
  split
  · next half =>
    have high : (5 : ℚ) ≤ digit := by exact_mod_cast half
    push_cast
    constructor <;> linarith
  · next noHalf =>
    have low : (digit : ℚ) + 1 ≤ 5 := by exact_mod_cast Nat.lt_of_not_le noHalf
    push_cast
    constructor <;> linarith

/-- The digits with their point denote a number of units of the last place. -/
def Pointed.units (value : Pointed) : ℚ :=
  number value.digits * 10 ^ ((value.point : Int) + places - value.digits.length)

/-- Digits that are only filled up denote the same number of units. -/
theorem units_of_le {value : Pointed} (short : value.digits.length ≤ value.point + places) :
    value.units = number value.cut.digits := by
  obtain ⟨missing, enough⟩ := Nat.exists_eq_add_of_le short
  have power : (value.point : Int) + places - value.digits.length = missing := by
    have cast : ((value.point + places : Nat) : Int) = (value.digits.length + missing : Nat) :=
      congrArg _ enough
    push_cast at cast
    omega
  rw [Pointed.units, power, zpow_natCast, Pointed.cut, List.take_of_length_le short, enough,
    Nat.add_sub_cancel_left, number_append, number_zeros, List.length_replicate]
  push_cast
  ring

/-- Where digits are cut off, the first of them bounds what is lost from both sides. -/
theorem units_of_lt {value : Pointed} {digit : Fin 10} {low : List (Fin 10)}
    (long : value.digits.drop (value.point + places) = digit :: low) :
    number value.cut.digits + (digit : ℚ) / 10 ≤ value.units ∧
      value.units < number value.cut.digits + ((digit : ℚ) + 1) / 10 := by
  have more : value.point + places < value.digits.length := by
    by_contra short
    rw [List.drop_eq_nil_of_le (Nat.le_of_not_lt short)] at long
    cases long
  have cut : value.cut.digits = value.digits.take (value.point + places) := by
    rw [Pointed.cut, Nat.sub_eq_zero_of_le more.le, List.replicate_zero, List.append_nil]
  have whole : value.digits = value.cut.digits ++ digit :: low := by
    rw [cut, ← long, List.take_append_drop]
  have length : value.digits.length = value.point + places + (low.length + 1) := by
    rw [whole, List.length_append, value.cut_length]
    rfl
  have power : (value.point : Int) + places - value.digits.length = -((low.length + 1 : Nat) : Int) := by
    rw [length]
    push_cast
    ring
  have small : (number low : ℚ) < 10 ^ low.length := by exact_mod_cast number_lt low
  have positive : (0 : ℚ) < 10 ^ low.length := by positivity
  -- What is lost is the digit in the first lost place and less than one more of that place.
  have units : value.units = number value.cut.digits + digit / 10 + number low / (10 * 10 ^ low.length) := by
    rw [Pointed.units, power, zpow_neg, zpow_natCast, whole, number_append, number_cons, List.length_cons]
    push_cast
    rw [pow_succ]
    field_simp
    ring
  have none : (0 : ℚ) ≤ number low / (10 * 10 ^ low.length) := by positivity
  have part : (number low : ℚ) / (10 * 10 ^ low.length) < 1 / 10 := by
    rw [div_lt_div_iff₀ (by positivity) (by norm_num)]
    linarith
  rw [units]
  constructor <;> linarith

/-- The digits are rounded to the nearest number of units, a half up. -/
theorem number_rounded (value : Pointed) :
    (number value.rounded.digits : Int) = ⌊value.units + 1 / 2⌋ := by
  rcases Nat.lt_or_ge (value.point + places) value.digits.length with more | short
  · have long := List.drop_eq_getElem_cons more
    obtain ⟨lower, upper⟩ := units_of_lt long
    rw [floor_add_half (value.digits[value.point + places]).isLt lower upper, Pointed.rounded,
      List.getElem?_eq_getElem more, Option.any_some]
    by_cases half : 5 ≤ value.digits[value.point + places]
    · rw [if_pos (decide_eq_true half), number_next, if_pos (show 5 ≤ _ from half)]
    · rw [if_neg (by simpa using half), if_neg (show ¬ 5 ≤ _ from half)]
      rfl
  · have whole : ⌊(number value.cut.digits : ℚ) + 1 / 2⌋ = (number value.cut.digits : Int) := by
      rw [Int.floor_eq_iff]
      push_cast
      constructor <;> linarith
    rw [units_of_le short, whole, Pointed.rounded, List.getElem?_eq_none short]
    rfl

/-- The digits of a numeral with its exponent keep what it denotes. -/
theorem shift_units {parts : Parts}
    (all : (parts.whole ++ parts.fraction).all Char.isDigit = true) :
    (shift parts).units = parts.digits * 10 ^ parts.scale * 10 ^ places := by
  have digits : number ((parts.whole ++ parts.fraction).map digit) = parts.digits := by
    rw [number, letters_digits all]
    rfl
  have power : (10 : ℚ) ^ parts.scale * 10 ^ places = 10 ^ (parts.scale + places) := by
    rw [zpow_add₀ (by norm_num), zpow_natCast]
  rw [mul_assoc, power, shift]
  generalize point : (parts.whole.length : Int) + parts.exponent = place
  cases place with
  | ofNat place =>
      simp only [Pointed.units, digits, List.length_map, List.length_append]
      congr 2
      rw [Parts.scale]
      simp only [Int.ofNat_eq_natCast] at point
      push_cast
      omega
  | negSucc missing =>
      simp only [Pointed.units, number_append, number_zeros, digits, List.length_map,
        List.length_append, List.length_replicate, Nat.zero_mul, Nat.zero_add]
      congr 2
      rw [Parts.scale]
      rw [Int.negSucc_eq] at point
      push_cast
      omega

/-- A digit is zero only where its letter is. -/
theorem digit_ne_zero_iff {letter : Char} (isDigit : letter.isDigit = true) :
    digit letter ≠ 0 ↔ letter ≠ '0' := by
  have same := letter_digit isDigit
  constructor
  · rintro other rfl
    exact other rfl
  · intro other zero
    rw [zero] at same
    exact other same.symm

/-- A digit other than zero stays one where the point is moved. -/
theorem shift_any {parts : Parts}
    (all : (parts.whole ++ parts.fraction).all Char.isDigit = true) :
    (shift parts).digits.any (· ≠ 0) = true ↔ ∃ letter ∈ parts.whole ++ parts.fraction, letter ≠ '0' := by
  have digits : ((parts.whole ++ parts.fraction).map digit).any (· ≠ 0) = true ↔
      ∃ letter ∈ parts.whole ++ parts.fraction, letter ≠ '0' := by
    rw [List.any_map, List.any_eq_true]
    refine exists_congr fun letter => and_congr_right fun member => ?_
    rw [← digit_ne_zero_iff (List.all_eq_true.mp all letter member)]
    exact decide_eq_true_iff
  rw [← digits, shift]
  split
  · rfl
  · rw [List.any_append, List.any_replicate]
    simp

/-- Digits without one other than zero denote zero. -/
theorem number_of_zeros {digits : List (Fin 10)} (zeros : ¬ digits.any (· ≠ 0) = true) :
    number digits = 0 := by
  have same : digits = List.replicate digits.length 0 := by
    rw [List.eq_replicate_iff]
    refine ⟨rfl, fun digit member => ?_⟩
    by_contra other
    exact zeros (List.any_eq_true.mpr ⟨digit, member, decide_eq_true other⟩)
  rw [same, number_zeros]

/-- An integer part without zeros in front of it, but for one that stands alone, and nine decimals. -/
structure IsFixed (whole decimals : Text) : Prop where
  stands : whole ≠ []
  digits : (whole ++ decimals).all Char.isDigit = true
  noZeros : whole = ['0'] ∨ whole.head? ≠ some '0'
  length : decimals.length = 9

/-- An integer part is a zero alone, or its digits from the first one other than zero. -/
theorem wholeText_cases (digits : List (Fin 10)) :
    digits.dropWhile (· = 0) = [] ∧ wholeText digits = ['0'] ∨
      ∃ first others, digits.dropWhile (· = 0) = first :: others ∧ first ≠ 0 ∧
        wholeText digits = letter first :: others.map letter := by
  rw [wholeText]
  cases significant : digits.dropWhile (· = 0) with
  | nil => exact .inl ⟨rfl, rfl⟩
  | cons first others =>
      have stops := List.head?_dropWhile_not (· = 0) digits
      rw [significant] at stops
      exact .inr ⟨first, others, rfl, by simpa using stops, rfl⟩

/-- An integer part consists of digits. -/
theorem wholeText_isDigit (digits : List (Fin 10)) : (wholeText digits).all Char.isDigit = true := by
  rcases wholeText_cases digits with ⟨_, zero⟩ | ⟨first, others, _, _, whole⟩
  · rw [zero]
    rfl
  · rw [whole]
    exact letters_isDigit (first :: others)

/-- An integer part is not empty. -/
theorem wholeText_stands (digits : List (Fin 10)) : wholeText digits ≠ [] := by
  rcases wholeText_cases digits with ⟨_, zero⟩ | ⟨_, _, _, _, whole⟩
  · simp [zero]
  · simp [whole]

/-- An integer part starts with no zero unless that stands alone. -/
theorem wholeText_noZeros (digits : List (Fin 10)) :
    wholeText digits = ['0'] ∨ (wholeText digits).head? ≠ some '0' := by
  rcases wholeText_cases digits with ⟨_, zero⟩ | ⟨first, _, _, other, whole⟩
  · exact .inl zero
  · have noZero : ∀ digit : Fin 10, digit ≠ 0 → letter digit ≠ '0' := by decide
    rw [whole]
    exact .inr fun same => noZero first other (Option.some.inj same)

/-- An integer part denotes the number of its digits. -/
theorem decimalValue_wholeText (digits : List (Fin 10)) :
    Text.decimalValue (wholeText digits) = number digits := by
  rw [← number_significant]
  rcases wholeText_cases digits with ⟨significant, zero⟩ | ⟨first, others, significant, _, whole⟩
  · rw [significant, zero]
    rfl
  · rw [significant, whole]
    rfl

section Layout

variable {value : Pointed} (nine : value.digits.length = value.point + places)

include nine

/-- The digits around the point are laid out as an integer part and nine decimals. -/
theorem layout_isFixed :
    IsFixed (wholeText (value.digits.take value.point)) ((value.digits.drop value.point).map letter) := by
  refine ⟨wholeText_stands _, ?_, wholeText_noZeros _, ?_⟩
  · rw [List.all_append, wholeText_isDigit, letters_isDigit]
    rfl
  · rw [List.length_map, List.length_drop, nine]
    exact Nat.add_sub_cancel_left value.point places

/-- The laid out digits denote the number of units. -/
theorem decimalValue_layout :
    Text.decimalValue (wholeText (value.digits.take value.point) ++
      (value.digits.drop value.point).map letter) = number value.digits := by
  rw [Text.decimalValue_append (layout_isFixed nine).digits, decimalValue_wholeText, List.length_map,
    ← number, ← number_append, List.take_append_drop]

/-- A layout has the form of one and denotes its units of the last place. -/
theorem layout_spec : ∃ whole decimals, value.layout = whole ++ '.' :: decimals ∧
    IsFixed whole decimals ∧
    ∀ sign, rational sign ⟨whole, decimals, 0⟩ = signed sign ((number value.digits : ℚ) / 10 ^ places) := by
  have fixed := layout_isFixed nine
  refine ⟨_, _, rfl, fixed, fun sign => ?_⟩
  have scale : ((0 : Int) - ((value.digits.drop value.point).map letter).length) = -(places : Int) := by
    rw [fixed.length]
    rfl
  rw [rational, Parts.digits, decimalValue_layout nine, Parts.scale, scale, zpow_neg, zpow_natCast,
    div_eq_mul_inv]

end Layout

/-- Rounds to so many decimals, halves away from zero. -/
def awayFromZero (decimals : Nat) (value : ℚ) : ℚ :=
  SignType.sign value * (⌊|value| * 10 ^ decimals + 1 / 2⌋ / 10 ^ decimals)

/-- Rounding away from zero does not depend on the sign. -/
theorem awayFromZero_neg (decimals : Nat) (value : ℚ) :
    awayFromZero decimals (-value) = -awayFromZero decimals value := by
  rw [awayFromZero, awayFromZero, abs_neg, Left.sign_neg]
  push_cast
  ring

/-- A number that is not negative is rounded half up. -/
theorem awayFromZero_of_nonneg (decimals : Nat) {value : ℚ} (nonneg : 0 ≤ value) :
    awayFromZero decimals value = ⌊value * 10 ^ decimals + 1 / 2⌋ / 10 ^ decimals := by
  rw [awayFromZero, abs_of_nonneg nonneg]
  rcases nonneg.eq_or_lt with rfl | positive
  · norm_num
  · rw [sign_pos positive]
    simp

/-- A signed number is rounded as its size and gets its sign again. -/
theorem signed_awayFromZero (decimals : Nat) (sign : Text) {value : ℚ} (nonneg : 0 ≤ value) :
    awayFromZero decimals (signed sign value) =
      signed sign ((⌊value * 10 ^ decimals + 1 / 2⌋ : ℚ) / 10 ^ decimals) := by
  rw [← awayFromZero_of_nonneg decimals nonneg, signed, signed]
  split
  · exact awayFromZero_neg decimals value
  · rfl

/-- What is written for a numeral behind its sign. -/
theorem text?_eq_some_iff {text result : Text} :
    text? text = some result ↔ ∃ sign body parts, text = sign ++ body ∧ IsSign sign ∧ Spells body parts ∧
      parts.exponent.natAbs ≤ exponentLimit ∧
      result = (if sign = ['-'] ∧ (shift parts).digits.any (· ≠ 0) then ['-'] else []) ++
        (shift parts).rounded.layout := by
  constructor
  · intro found
    obtain ⟨⟨sign, body⟩, split⟩ : ∃ pair, Text.splitSign text = pair := ⟨_, rfl⟩
    rw [text?, split] at found
    obtain ⟨parts, read, found⟩ := Option.bind_eq_some_iff.mp found
    split at found
    · cases found
    · next within =>
      obtain ⟨rfl, isSign⟩ := splitSign_sound split
      exact ⟨sign, body, parts, rfl, isSign, parts?_eq_some_iff.mp read, Nat.le_of_not_lt within,
        (Option.some.inj found).symm⟩
  · rintro ⟨sign, body, parts, rfl, isSign, spells, within, rfl⟩
    rw [text?, splitSign_append isSign spells.unsigned]
    simp only [parts?_eq_some_iff.mpr spells, Option.bind_eq_bind, Option.bind_some,
      if_neg (Nat.not_lt_of_le within)]

/-- The digits of a numeral are rounded to nine decimals. -/
theorem signed_rounded (sign : Text) {parts : Parts}
    (all : (parts.whole ++ parts.fraction).all Char.isDigit = true) :
    signed sign ((number (shift parts).rounded.digits : ℚ) / 10 ^ places) =
      awayFromZero places (rational sign parts) := by
  have nonneg : (0 : ℚ) ≤ parts.digits * 10 ^ parts.scale := by positivity
  have count : (number (shift parts).rounded.digits : ℚ) =
      (⌊(parts.digits : ℚ) * 10 ^ parts.scale * 10 ^ places + 1 / 2⌋ : ℚ) := by
    rw [← shift_units all, ← number_rounded]
    rfl
  rw [rational, signed_awayFromZero places sign nonneg, count]

/-- Zero is rounded to zero. -/
theorem rounded_of_zeros {value : Pointed} (zeros : ¬ value.digits.any (· ≠ 0) = true) :
    number value.rounded.digits = 0 := by
  have units : value.units = 0 := by
    rw [Pointed.units, number_of_zeros zeros, Nat.cast_zero, zero_mul]
  have count := number_rounded value
  rw [units] at count
  norm_num at count
  exact count

/-- A minus sign that is left out in front of zeros alone changes nothing. -/
theorem signed_unless_zeros (sign : Text) (value : Pointed) :
    signed (if sign = ['-'] ∧ value.digits.any (· ≠ 0) then ['-'] else [])
        ((number value.rounded.digits : ℚ) / 10 ^ places) =
      signed sign ((number value.rounded.digits : ℚ) / 10 ^ places) := by
  split
  · next negative => rw [negative.1]
  · next noMinus =>
    by_cases isMinus : sign = ['-']
    · rw [rounded_of_zeros fun other => noMinus ⟨isMinus, other⟩]
      simp [signed]
    · rw [signed, signed, if_neg isMinus, if_neg (show ([] : Text) ≠ ['-'] from nofun)]

/-- The exponents within the limit are those from -1024 to 1024. -/
theorem natAbs_le_limit_iff {exponent : Int} :
    exponent.natAbs ≤ exponentLimit ↔ -1024 ≤ exponent ∧ exponent ≤ 1024 := by
  rw [exponentLimit]
  omega

/-- A text is written exactly when it is a signed numeral with an exponent of at most 1024 on either
side. What is written is the numeral rounded to nine decimals, halves away from zero, with a minus sign
exactly when there is one in front of digits that are not all zero. -/
theorem writes_rounded (text : Text) :
    ((text? text).isSome = true ↔ ∃ sign body parts, text = sign ++ body ∧ IsSign sign ∧
        Spells body parts ∧ -1024 ≤ parts.exponent ∧ parts.exponent ≤ 1024) ∧
      ∀ sign body parts, text = sign ++ body → IsSign sign → Spells body parts →
        -1024 ≤ parts.exponent → parts.exponent ≤ 1024 →
        ∃ minus whole decimals, text? text = some (minus ++ (whole ++ '.' :: decimals)) ∧
          IsFixed whole decimals ∧
          rational minus ⟨whole, decimals, 0⟩ = awayFromZero 9 (rational sign parts) ∧
          (minus = [] ∨ minus = ['-']) ∧
          (minus = ['-'] ↔ sign = ['-'] ∧ ∃ digit ∈ parts.whole ++ parts.fraction, digit ≠ '0') := by
  constructor
  · rw [Option.isSome_iff_exists]
    constructor
    · rintro ⟨result, found⟩
      obtain ⟨sign, body, parts, same, isSign, spells, within, _⟩ := text?_eq_some_iff.mp found
      exact ⟨sign, body, parts, same, isSign, spells, natAbs_le_limit_iff.mp within⟩
    · rintro ⟨sign, body, parts, same, isSign, spells, within⟩
      exact ⟨_, text?_eq_some_iff.mpr
        ⟨sign, body, parts, same, isSign, spells, natAbs_le_limit_iff.mpr within, rfl⟩⟩
  · intro sign body parts same isSign spells above below
    have written := text?_eq_some_iff.mpr
      ⟨sign, body, parts, same, isSign, spells, natAbs_le_limit_iff.mpr ⟨above, below⟩, rfl⟩
    obtain ⟨whole, decimals, layout, fixed, denotes⟩ := layout_spec (shift parts).rounded_length
    rw [layout] at written
    refine ⟨_, whole, decimals, written, fixed, ?_, ?_⟩
    · rw [denotes, signed_unless_zeros]
      exact signed_rounded sign spells.all
    · -- The minus is kept unless all digits are zeros, which shifting the point does not change.
      rw [← shift_any spells.all]
      split
      · next negative => exact ⟨.inr rfl, iff_of_true rfl negative⟩
      · next noMinus => exact ⟨.inl rfl, iff_of_false nofun noMinus⟩

/-- A carry through all digits moves the point. -/
theorem writes_rounded_carry :
    (text? "-99.9999999995e-1".toList).isSome = true ∧
      ∃ minus whole decimals,
        text? "-99.9999999995e-1".toList = some (minus ++ (whole ++ '.' :: decimals)) ∧
          IsFixed whole decimals ∧
          rational minus ⟨whole, decimals, 0⟩ =
            awayFromZero 9 (rational ['-'] ⟨"99".toList, "9999999995".toList, -1⟩) ∧
          (minus = [] ∨ minus = ['-']) ∧
          (minus = ['-'] ↔ ['-'] = ['-'] ∧ ∃ digit ∈ "999999999995".toList, digit ≠ '0') := by
  have power : Power ['e', '-', '1'] (-1) :=
    .written (.inl rfl) (.inr (.inr rfl)) (List.cons_ne_nil '1' []) rfl
  have spells : Spells "99.9999999995e-1".toList ⟨"99".toList, "9999999995".toList, -1⟩ :=
    ⟨⟨_, _, rfl, .pointed, power⟩, nofun, by decide⟩
  have isSign : IsSign ['-'] := .inr (.inr rfl)
  obtain ⟨accepts, rounds⟩ := writes_rounded "-99.9999999995e-1".toList
  exact ⟨accepts.mpr ⟨_, _, _, rfl, isSign, spells, by decide, by decide⟩,
    rounds _ _ _ rfl isSign spells (by decide) (by decide)⟩

example : text? "-99.9999999995e-1".toList = some "-10.000000000".toList := by decide

end Fixed

end ParamCodec
