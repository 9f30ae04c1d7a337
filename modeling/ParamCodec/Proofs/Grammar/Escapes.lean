import ParamCodec.Grammar.Quoted
import ParamCodec.Proofs.Decimal.Integers

namespace ParamCodec

/-- A digit is below its base. -/
theorem Text.digitValue?_lt {radix digit : Nat} {letter : Char}
    (isDigit : digitValue? radix letter = some digit) : digit < radix := by
  unfold digitValue? at isDigit
  exact of_decide_eq_true (Option.filter_eq_some_iff.mp isDigit).2

namespace Numeral

/-- Digits leave the number below the next one that ends with as many zeros. -/
theorem digitsValue_lt {radix : Nat} {digits : Text}
    (valid : ∀ letter ∈ digits, (Text.digitValue? radix letter).isSome = true) (start : Nat) :
    digitsValue radix start digits < (start + 1) * radix ^ digits.length := by
  induction digits generalizing start with
  | nil => simp [digitsValue]
  | cons letter digits ih =>
      rw [List.forall_mem_cons] at valid
      obtain ⟨digit, isDigit⟩ := Option.isSome_iff_exists.mp valid.1
      have small := Text.digitValue?_lt isDigit
      rw [digitsValue_cons digits isDigit, List.length_cons, Nat.pow_succ']
      calc digitsValue radix (start * radix + digit) digits
          < (start * radix + digit + 1) * radix ^ digits.length := ih valid.2 _
        _ ≤ ((start + 1) * radix) * radix ^ digits.length := by
            apply Nat.mul_le_mul_right
            rw [Nat.add_mul, Nat.one_mul]
            omega
        _ = (start + 1) * (radix * radix ^ digits.length) := Nat.mul_assoc _ _ _

end Numeral

namespace Grammar.Quoted

open Numeral

/-- A fixed count of digits in a base and the number that they denote. -/
structure IsNumeral (radix count : Nat) (digits : Text) (value : Nat) : Prop where
  length : digits.length = count
  valid : ∀ letter ∈ digits, (Text.digitValue? radix letter).isSome = true
  value_eq : value = digitsValue radix 0 digits

/-- The escapes of one letter and the bytes that they stand for. -/
def letterEscapes : List (Char × UInt8) :=
  [('n', 10), ('r', 13), ('t', 9), ('a', 7), ('b', 8), ('f', 12), ('v', 11), ('\x5c', 0x5C),
   ('\x27', 0x27), ('\x22', 0x22), ('\x60', 0x60), ('?', 0x3F)]

/-- What may stand behind a backslash, and the bytes that it stands for. A number of three octal digits
is one byte, a number of four or eight hexadecimal ones is a code point. -/
inductive EscapeForm : Text → List UInt8 → Prop
  | letter {letter : Char} {byte : UInt8} (listed : (letter, byte) ∈ letterEscapes) :
      EscapeForm [letter] [byte]
  | hexadecimal {mark : Char} {digits : Text} {value : Nat} (marked : mark = 'x' ∨ mark = 'X')
      (numeral : IsNumeral 16 2 digits value) : EscapeForm (mark :: digits) [UInt8.ofNat value]
  | octal {digits : Text} {value : Nat} (numeral : IsNumeral 8 3 digits value) (small : value ≤ 255) :
      EscapeForm digits [UInt8.ofNat value]
  | four {digits : Text} {letter : Char} (numeral : IsNumeral 16 4 digits letter.toNat) :
      EscapeForm ('u' :: digits) (Bytes.ofChar letter)
  | eight {digits : Text} {letter : Char} (numeral : IsNumeral 16 8 digits letter.toNat) :
      EscapeForm ('U' :: digits) (Bytes.ofChar letter)

/-- A fixed count of digits is read as it stands, whatever follows it. -/
theorem digits?_eq_some_iff {radix count start value : Nat} {source rest : Text} :
    digits? radix count start source = some (value, rest) ↔
      ∃ digits, source = digits ++ rest ∧ digits.length = count ∧
        (∀ letter ∈ digits, (Text.digitValue? radix letter).isSome = true) ∧
        value = digitsValue radix start digits := by
  induction count generalizing start source with
  | zero =>
      constructor
      · intro found
        cases found
        exact ⟨[], rfl, rfl, nofun, rfl⟩
      · rintro ⟨digits, rfl, length, _, rfl⟩
        rw [List.length_eq_zero_iff.mp length]
        rfl
  | succ count ih =>
      constructor
      · intro found
        cases source with
        | nil => cases found
        | cons letter source =>
            rw [digits?] at found
            split at found
            · next digit isDigit =>
              obtain ⟨digits, rfl, rfl, valid, rfl⟩ := ih.mp found
              refine ⟨letter :: digits, rfl, rfl, ?_, (digitsValue_cons digits isDigit).symm⟩
              exact List.forall_mem_cons.mpr ⟨by rw [isDigit]; rfl, valid⟩
            · cases found
      · rintro ⟨digits, rfl, length, valid, rfl⟩
        obtain ⟨letter, digits, rfl⟩ := List.exists_cons_of_length_eq_add_one length
        rw [List.forall_mem_cons] at valid
        obtain ⟨digit, isDigit⟩ := Option.isSome_iff_exists.mp valid.1
        rw [List.cons_append, digits?, isDigit]
        exact ih.mpr ⟨digits, rfl, Nat.succ.inj length, valid.2, digitsValue_cons digits isDigit⟩

/-- A numeral that is checked and turned into bytes. -/
theorem numbered_eq_some_iff {β : Type} {radix count : Nat} {source rest : Text}
    {check : Nat → Option β} {build : β → List UInt8} {bytes : List UInt8} :
    (do
      let (number, left) ← digits? radix count 0 source
      let value ← check number
      some (build value, left)) = some (bytes, rest) ↔
      ∃ digits number value, source = digits ++ rest ∧ IsNumeral radix count digits number ∧
        check number = some value ∧ bytes = build value := by
  constructor
  · intro found
    obtain ⟨⟨number, left⟩, read, found⟩ := Option.bind_eq_some_iff.mp found
    obtain ⟨value, checked, same⟩ := Option.bind_eq_some_iff.mp found
    obtain ⟨rfl, rfl⟩ := Prod.mk.inj (Option.some.inj same)
    obtain ⟨digits, rfl, length, valid, denotes⟩ := digits?_eq_some_iff.mp read
    exact ⟨digits, number, value, rfl, ⟨length, valid, denotes⟩, checked, rfl⟩
  · rintro ⟨digits, number, value, rfl, numeral, checked, rfl⟩
    have read : digits? radix count 0 (digits ++ rest) = some (number, rest) :=
      digits?_eq_some_iff.mpr ⟨digits, rfl, numeral.length, numeral.valid, numeral.value_eq⟩
    simp only [read, checked, Option.bind_eq_bind, Option.bind_some]

/-- The escapes of one letter are those of the list. -/
theorem shortEscape?_eq_some_iff {letter : Char} {bytes : List UInt8} :
    shortEscape? letter = some bytes ↔ ∃ byte, (letter, byte) ∈ letterEscapes ∧ bytes = [byte] := by
  constructor
  · intro found
    unfold shortEscape? at found
    split_ifs at found with newline return' tab bell backspace feed vertical itself
    all_goals cases found
    · exact ⟨10, by simp [newline, letterEscapes], rfl⟩
    · exact ⟨13, by simp [return', letterEscapes], rfl⟩
    · exact ⟨9, by simp [tab, letterEscapes], rfl⟩
    · exact ⟨7, by simp [bell, letterEscapes], rfl⟩
    · exact ⟨8, by simp [backspace, letterEscapes], rfl⟩
    · exact ⟨12, by simp [feed, letterEscapes], rfl⟩
    · exact ⟨11, by simp [vertical, letterEscapes], rfl⟩
    · simp only [Bool.or_eq_true, decide_eq_true_eq] at itself
      rcases itself with (((rfl | rfl) | rfl) | rfl) | rfl <;> exact ⟨_, by simp [letterEscapes], rfl⟩
  · rintro ⟨byte, listed, rfl⟩
    have all : ∀ pair ∈ letterEscapes, shortEscape? pair.1 = some [pair.2] := by decide +kernel
    exact all _ listed

/-- The numbers of bytes are those up to 255. -/
theorem byte?_eq_some_iff {value : Nat} {byte : UInt8} :
    byte? value = some byte ↔ value ≤ 255 ∧ byte = UInt8.ofNat value := by
  unfold byte?
  split
  · next small =>
    have within : value ≤ 255 := Nat.le_of_lt_succ small
    simp [within, eq_comm]
  · next great =>
    have beyond : ¬ value ≤ 255 := fun within => great (Nat.lt_succ_of_le within)
    simp [beyond]

/-- The number of a code point is that of its letter. -/
theorem scalar?_eq_some_iff {value : Nat} {letter : Char} :
    scalar? value = some letter ↔ value = letter.toNat := by
  unfold scalar?
  constructor
  · intro found
    split at found
    · next valid =>
      cases found
      rw [Char.ofNat, dif_pos valid]
      rfl
    · cases found
  · rintro rfl
    rw [if_pos (show letter.toNat.isValidChar from letter.valid), Char.ofNat_toNat]

/-- Two hexadecimal digits are always the number of a byte. -/
theorem IsNumeral.byte?_eq {digits : Text} {value : Nat} (numeral : IsNumeral 16 2 digits value) :
    byte? value = some (UInt8.ofNat value) := by
  have small := digitsValue_lt numeral.valid 0
  rw [← numeral.value_eq, numeral.length] at small
  exact byte?_eq_some_iff.mpr ⟨Nat.le_of_lt_succ small, rfl⟩

/-- The letters behind a backslash that are no octal digits. -/
def escapeLetters : List Char := ['x', 'X', 'u', 'U'] ++ letterEscapes.map Prod.fst

/-- An octal digit is no letter of another escape. -/
theorem not_mem_escapeLetters {letter : Char} (octal : (Text.digitValue? 8 letter).isSome = true) :
    letter ∉ escapeLetters := by
  intro listed
  have others : escapeLetters.any (fun letter => (Text.digitValue? 8 letter).isSome) = false := by decide
  rw [none_of_mem listed others] at octal
  cases octal

/-- An octal digit starts an escape of three of them and no other one. -/
theorem escape?_octal {letter : Char} (source : Text)
    (octal : (Text.digitValue? 8 letter).isSome = true) : escape? (letter :: source) = (do
      let (number, left) ← digits? 8 3 0 (letter :: source)
      let byte ← byte? number
      some ([byte], left)) := by
  have noEscape := not_mem_escapeLetters octal
  have noShort : shortEscape? letter = none := by
    rw [Option.eq_none_iff_forall_ne_some]
    intro bytes found
    obtain ⟨byte, listed, _⟩ := shortEscape?_eq_some_iff.mp found
    exact noEscape (List.mem_append_right _ (List.mem_map_of_mem listed))
  have noNumber : letter ∉ ['x', 'X', 'u', 'U'] := fun listed =>
    noEscape (List.mem_append_left _ listed)
  simp only [List.mem_cons, List.not_mem_nil, or_false, not_or] at noNumber
  rw [escape?, noShort]
  simp [noNumber]

/-- An escape is read exactly when it has one of the forms, whatever follows it. -/
theorem escape?_eq_some_iff {source rest : Text} {bytes : List UInt8} :
    escape? source = some (bytes, rest) ↔ ∃ text, source = text ++ rest ∧ EscapeForm text bytes := by
  constructor
  · intro found
    cases source with
    | nil => cases found
    | cons letter source =>
        -- The branches in the order of the reader: one letter, two digits, four, eight, and three
        -- octal ones.
        rw [escape?] at found
        split at found
        · next short isShort =>
          cases found
          obtain ⟨byte, listed, rfl⟩ := shortEscape?_eq_some_iff.mp isShort
          exact ⟨[letter], rfl, .letter listed⟩
        · split at found
          · next marked =>
            simp only [Bool.or_eq_true, decide_eq_true_eq] at marked
            obtain ⟨digits, number, byte, rfl, numeral, checked, rfl⟩ := numbered_eq_some_iff.mp found
            obtain ⟨_, rfl⟩ := byte?_eq_some_iff.mp checked
            exact ⟨letter :: digits, rfl, .hexadecimal marked numeral⟩
          · split at found
            · next four =>
              obtain ⟨digits, number, value, rfl, numeral, checked, rfl⟩ :=
                numbered_eq_some_iff.mp found
              obtain rfl := scalar?_eq_some_iff.mp checked
              exact ⟨letter :: digits, rfl, four ▸ .four numeral⟩
            · split at found
              · next eight =>
                obtain ⟨digits, number, value, rfl, numeral, checked, rfl⟩ :=
                  numbered_eq_some_iff.mp found
                obtain rfl := scalar?_eq_some_iff.mp checked
                exact ⟨letter :: digits, rfl, eight ▸ .eight numeral⟩
              · obtain ⟨digits, number, byte, whole, numeral, checked, rfl⟩ :=
                  numbered_eq_some_iff.mp found
                obtain ⟨small, rfl⟩ := byte?_eq_some_iff.mp checked
                exact ⟨digits, whole, .octal numeral small⟩
  · rintro ⟨text, rfl, form⟩
    cases form with
    | letter listed =>
        have short := shortEscape?_eq_some_iff.mpr ⟨_, listed, rfl⟩
        rw [List.singleton_append, escape?, short]
    | hexadecimal marked numeral =>
        rcases marked with rfl | rfl
        · exact numbered_eq_some_iff.mpr ⟨_, _, _, rfl, numeral, numeral.byte?_eq, rfl⟩
        · exact numbered_eq_some_iff.mpr ⟨_, _, _, rfl, numeral, numeral.byte?_eq, rfl⟩
    | octal numeral small =>
        -- An octal digit starts none of the other escapes, so it comes to the last branch.
        obtain ⟨letter, digits, rfl⟩ := List.exists_cons_of_length_eq_add_one numeral.length
        rw [List.cons_append, escape?_octal _ (numeral.valid letter (List.mem_cons_self ..))]
        exact numbered_eq_some_iff.mpr
          ⟨_, _, _, rfl, numeral, byte?_eq_some_iff.mpr ⟨small, rfl⟩, rfl⟩
    | four numeral =>
        exact numbered_eq_some_iff.mpr
          ⟨_, _, _, rfl, numeral, scalar?_eq_some_iff.mpr rfl, rfl⟩
    | eight numeral =>
        exact numbered_eq_some_iff.mpr
          ⟨_, _, _, rfl, numeral, scalar?_eq_some_iff.mpr rfl, rfl⟩

end Grammar.Quoted

end ParamCodec
