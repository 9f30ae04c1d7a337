import ParamCodec.Decimal.Numeral
import ParamCodec.Proofs.Grammar.Numbers

namespace ParamCodec.Numeral

open Grammar Grammar.Number

/-- A sign in front of a number. -/
def signed {α : Type} [Neg α] (sign : Text) (size : α) : α := if sign = ['-'] then -size else size

/-- Digits with at most one point among them: those before it and those behind it. -/
inductive Mantissa : Text → Text → Text → Prop
  | plain {whole : Text} : Mantissa whole whole []
  | pointed {whole fraction : Text} : Mantissa (whole ++ '.' :: fraction) whole fraction

/-- Nothing, or the letter `e` of either case with an optional sign and digits, and the exponent. -/
inductive Power : Text → Int → Prop
  | none : Power [] 0
  | written {mark : Char} {sign digits : Text} (marked : mark = 'e' ∨ mark = 'E')
      (isSign : IsSign sign) (stands : digits ≠ []) (all : digits.all Char.isDigit = true) :
      Power (mark :: (sign ++ digits)) (signed sign (Text.decimalValue digits : Int))

/-- How a decimal numeral without a sign is written. -/
structure Spells (text : Text) (parts : Parts) : Prop where
  written : ∃ mantissa power, text = mantissa ++ power ∧
    Mantissa mantissa parts.whole parts.fraction ∧ Power power parts.exponent
  stands : parts.whole ++ parts.fraction ≠ []
  all : (parts.whole ++ parts.fraction).all Char.isDigit = true

/-- Whether a letter does not set off an exponent. -/
def noMark (letter : Char) : Bool := letter ≠ 'e' ∧ letter ≠ 'E'

/-- The marks of exponents are the letter `e` of either case. -/
theorem noMark_eq_false_iff {letter : Char} : noMark letter = false ↔ letter = 'e' ∨ letter = 'E' := by
  rw [noMark, decide_eq_false_iff_not, not_and_or, not_not, not_not]

/-- A digit sets off no exponent. -/
theorem noMark_of_isDigit {letter : Char} (digit : letter.isDigit = true) : noMark letter = true := by
  by_contra mark
  rcases noMark_eq_false_iff.mp (Bool.eq_false_iff.mpr mark) with rfl | rfl <;> cases digit

/-- An exponent is an optional sign and digits, of any size. -/
theorem exponent?_eq_some_iff {text : Text} {exponent : Int} :
    exponent? text = some exponent ↔ ∃ sign digits, text = sign ++ digits ∧ IsSign sign ∧ digits ≠ [] ∧
      digits.all Char.isDigit = true ∧ exponent = signed sign (Text.decimalValue digits : Int) := by
  constructor
  · intro read
    obtain ⟨⟨sign, digits⟩, split⟩ : ∃ pair, Text.splitSign text = pair := ⟨_, rfl⟩
    obtain ⟨rfl, isSign⟩ := splitSign_sound split
    rw [exponent?, split] at read
    cases digits with
    | nil => cases read
    | cons digit digits =>
        dsimp only at read
        split at read
        · next all =>
          cases read
          exact ⟨sign, _, rfl, isSign, List.cons_ne_nil _ _, all, rfl⟩
        · cases read
  · rintro ⟨sign, digits, rfl, isSign, stands, all, rfl⟩
    rw [exponent?, splitSign_append isSign (digits_unsigned all)]
    cases digits with
    | nil => exact absurd rfl stands
    | cons digit digits =>
        dsimp only
        rw [if_pos all]
        rfl

theorem splitExponent_eq (text : Text) : splitExponent text =
    match text.dropWhile noMark with
    | [] => (text, none)
    | _ :: exponent => (text.takeWhile noMark, some exponent) := rfl

/-- A numeral that is split is its mantissa alone, or its mantissa, a mark and its exponent. -/
theorem splitExponent_sound {text mantissa : Text} {written : Option Text}
    (split : splitExponent text = (mantissa, written)) :
    text = mantissa ∧ written = none ∨ ∃ mark exponent, (mark = 'e' ∨ mark = 'E') ∧
      text = mantissa ++ mark :: exponent ∧ written = some exponent := by
  rw [splitExponent_eq] at split
  cases left : text.dropWhile noMark with
  | nil =>
      rw [left] at split
      cases split
      exact .inl ⟨rfl, rfl⟩
  | cons mark exponent =>
      rw [left] at split
      obtain ⟨taken, rfl⟩ := Prod.mk.inj split
      obtain ⟨whole, _, ends⟩ := run_eq_iff.mp ⟨taken, left⟩
      exact .inr ⟨mark, exponent, noMark_eq_false_iff.mp (ends mark rfl), whole, rfl⟩

/-- A mantissa alone has no exponent. -/
theorem splitExponent_plain {mantissa : Text} (free : mantissa.all noMark = true) :
    splitExponent mantissa = (mantissa, none) := by
  obtain ⟨_, left⟩ := run_eq_iff.mpr ⟨(List.append_nil mantissa).symm, free, nofun⟩
  rw [splitExponent_eq, left]

/-- A mantissa without marks is split from the exponent behind the mark. -/
theorem splitExponent_marked {mantissa : Text} {mark : Char} (exponent : Text)
    (free : mantissa.all noMark = true) (marked : mark = 'e' ∨ mark = 'E') :
    splitExponent (mantissa ++ mark :: exponent) = (mantissa, some exponent) := by
  obtain ⟨taken, left⟩ := run_eq_iff.mpr
    ⟨rfl, free, endsRun_cons exponent (noMark_eq_false_iff.mpr marked)⟩
  rw [splitExponent_eq, left, taken]

/-- The digits around the first point, or all of them. -/
def around (mantissa : Text) : Text × Text := (Text.splitAtFirst? '.' mantissa).getD (mantissa, [])

/-- The digits on the two sides of the first point make up the mantissa. -/
theorem around_sound {mantissa whole fraction : Text} (split : around mantissa = (whole, fraction)) :
    Mantissa mantissa whole fraction := by
  unfold around at split
  cases found : Text.splitAtFirst? '.' mantissa with
  | none =>
      rw [found] at split
      cases split
      exact .plain
  | some pair =>
      rw [found] at split
      cases split
      obtain ⟨rfl, _⟩ := splitAtFirst?_eq_some_iff.mp found
      exact .pointed

/-- A mantissa of digits is split into those on the two sides of its point. -/
theorem around_complete {mantissa whole fraction : Text} (form : Mantissa mantissa whole fraction)
    (all : whole.all Char.isDigit = true) : around mantissa = (whole, fraction) := by
  have free : '.' ∉ whole := fun member => by cases List.all_eq_true.mp all '.' member
  cases form with
  | plain =>
      have none : Text.splitAtFirst? '.' mantissa = none := by
        rw [Option.eq_none_iff_forall_ne_some]
        rintro ⟨before, after⟩ found
        obtain ⟨rfl, _⟩ := splitAtFirst?_eq_some_iff.mp found
        exact free (List.mem_append_right before (List.mem_cons_self ..))
      rw [around, none, Option.getD_none]
  | pointed => rw [around, splitAtFirst?_eq_some_iff.mpr ⟨rfl, free⟩, Option.getD_some]

/-- A mantissa of digits holds no mark of an exponent. -/
theorem Mantissa.noMark {mantissa whole fraction : Text} (form : Mantissa mantissa whole fraction)
    (all : (whole ++ fraction).all Char.isDigit = true) : mantissa.all noMark = true := by
  have digits : ∀ letter ∈ whole ++ fraction, Numeral.noMark letter = true :=
    fun letter member => noMark_of_isDigit (List.all_eq_true.mp all letter member)
  rw [List.all_eq_true]
  intro letter member
  cases form with
  | plain => exact digits letter (List.mem_append_left [] member)
  | pointed =>
      rcases List.mem_append.mp member with before | behind
      · exact digits letter (List.mem_append_left _ before)
      · rcases List.mem_cons.mp behind with rfl | after
        · rfl
        · exact digits letter (List.mem_append_right _ after)

/-- A numeral is read exactly when it is spelled as one, and its parts are those it is spelled with. -/
theorem parts?_eq_some_iff {text : Text} {parts : Parts} :
    parts? text = some parts ↔ Spells text parts := by
  constructor
  · intro read
    -- The text is cut at its first mark, and what stands before it at its first point.
    obtain ⟨⟨mantissa, written⟩, split⟩ : ∃ pair, splitExponent text = pair := ⟨_, rfl⟩
    obtain ⟨⟨whole, fraction⟩, point⟩ : ∃ pair, around mantissa = pair := ⟨_, rfl⟩
    have form := around_sound point
    rw [around] at point
    simp only [parts?, split, point] at read
    split at read
    · cases read
    · next valid =>
      obtain ⟨exponent, power, rfl⟩ := Option.map_eq_some_iff.mp read
      simp only [Bool.or_eq_true, not_or, List.isEmpty_iff, Bool.not_eq_true', Bool.not_eq_false] at valid
      refine ⟨?_, valid.1, valid.2⟩
      rcases splitExponent_sound split with ⟨rfl, rfl⟩ | ⟨mark, behind, marked, rfl, rfl⟩
      · cases power
        exact ⟨_, [], (List.append_nil _).symm, form, .none⟩
      · obtain ⟨sign, digits, rfl, isSign, stands, all, rfl⟩ := exponent?_eq_some_iff.mp power
        exact ⟨_, _, rfl, form, .written marked isSign stands all⟩
  · rintro ⟨⟨mantissa, power, rfl, form, isPower⟩, stands, all⟩
    obtain ⟨whole, fraction, exponent⟩ := parts
    have wholeAll : whole.all Char.isDigit = true := by
      rw [List.all_append, Bool.and_eq_true] at all
      exact all.1
    have point := around_complete form wholeAll
    have nonempty : (whole ++ fraction).isEmpty = false := by
      rw [List.isEmpty_eq_false_iff]
      exact stands
    -- Digits hold no mark and no second point, so the reader cuts where the parts meet.
    have free := form.noMark all
    rw [around] at point
    generalize same : (⟨whole, fraction, exponent⟩ : Parts).exponent = value at isPower
    cases isPower with
    | none =>
        simp only [List.append_nil, parts?, splitExponent_plain free, point, nonempty, all]
        rw [← same]
        rfl
    | written marked isSign numeral digits =>
        have power := exponent?_eq_some_iff.mpr ⟨_, _, rfl, isSign, numeral, digits, rfl⟩
        simp only [parts?, splitExponent_marked _ free marked, point, nonempty, all, power]
        rw [← same]
        rfl

/-- A mantissa of digits starts with no sign. -/
theorem Mantissa.unsigned {mantissa whole fraction : Text} (form : Mantissa mantissa whole fraction)
    (all : whole.all Char.isDigit = true) : EndsRun isSignMark mantissa := by
  cases form with
  | plain => exact digits_unsigned all
  | pointed => exact (digits_unsigned all).append (endsRun_cons _ rfl)

/-- A power starts with no sign. -/
theorem Power.unsigned {power : Text} {exponent : Int} (form : Power power exponent) :
    EndsRun isSignMark power := by
  cases form with
  | none => exact nofun
  | written marked => exact endsRun_cons _ (by rcases marked with rfl | rfl <;> rfl)

/-- No sign is part of a numeral that is spelled without one. -/
theorem Spells.unsigned {text : Text} {parts : Parts} (spells : Spells text parts) :
    EndsRun isSignMark text := by
  obtain ⟨⟨mantissa, power, rfl, form, isPower⟩, _, all⟩ := spells
  rw [List.all_append, Bool.and_eq_true] at all
  exact (form.unsigned all.1).append isPower.unsigned

/-- The number that a sign and the parts behind it denote. -/
def rational (sign : Text) (parts : Parts) : ℚ := signed sign ((parts.digits : ℚ) * 10 ^ parts.scale)

/-- A text is a numeral for a number, with or without a sign. -/
def Denotes (text : Text) (value : ℚ) : Prop :=
  ∃ sign body parts, text = sign ++ body ∧ IsSign sign ∧ Spells body parts ∧ rational sign parts = value

/-- A text denotes one number at most. -/
theorem Denotes.unique {text : Text} {value other : ℚ} (denotes : Denotes text value)
    (again : Denotes text other) : value = other := by
  obtain ⟨sign, body, parts, rfl, isSign, spells, rfl⟩ := denotes
  obtain ⟨otherSign, otherBody, otherParts, same, isOtherSign, otherSpells, rfl⟩ := again
  have split := splitSign_append isSign spells.unsigned
  rw [same, splitSign_append isOtherSign otherSpells.unsigned] at split
  obtain ⟨rfl, rfl⟩ := Prod.mk.inj split
  have read := parts?_eq_some_iff.mpr spells
  rw [parts?_eq_some_iff.mpr otherSpells, Option.some.injEq] at read
  rw [read]

end ParamCodec.Numeral
