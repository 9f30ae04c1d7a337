import ParamCodec.Grammar.LiteralGrammar
import ParamCodec.Proofs.Grammar.Lists

namespace ParamCodec

theorem Literal.sql_integer (text : Text) (radix : Nat) :
    (integer text radix).sql = integerText text radix := sql.eq_def _

theorem Literal.sql_float (text : Text) : (float text).sql = text := sql.eq_def _

namespace Grammar.Number

/-- A letter that a number may not run into. -/
def isNumberPart (letter : Char) : Bool := Identifier.isWordPart letter || letter == '.'

def isSignMark (letter : Char) : Bool := letter == '+' || letter == '-'

def IsSign (sign : Text) : Prop := sign = [] ∨ sign = ['+'] ∨ sign = ['-']

/-- Nothing, or a point with digits on one of its sides at least. -/
def IsPlaces (whole places : Text) : Prop :=
  places = [] ∨ ∃ digits, places = '.' :: digits ∧ digits.all Char.isDigit = true ∧
    (whole ≠ [] ∨ digits ≠ [])

/-- Nothing, or the letter `e` of either case, an optional sign and digits. -/
def IsPower (power : Text) : Prop :=
  power = [] ∨ ∃ mark sign digits, power = mark :: sign ++ digits ∧ (mark = 'e' ∨ mark = 'E') ∧
    IsSign sign ∧ digits ≠ [] ∧ digits.all Char.isDigit = true

/-- The number literals and their values. The text of a hexadecimal integer lacks its `0x`. -/
inductive Lexeme : Text → Literal → Prop
  | hexadecimal {sign digits : Text} {mark : Char} (signed : IsSign sign)
      (marked : mark = 'x' ∨ mark = 'X') (stands : digits ≠ [])
      (all : digits.all Text.isHexDigit = true) :
      Lexeme (sign ++ '0' :: mark :: digits) (.integer (sign ++ digits) 16)
  | decimal {sign whole places power : Text} (signed : IsSign sign)
      (all : whole.all Char.isDigit = true) (stands : whole ≠ [] ∨ places ≠ [])
      (isPlaces : IsPlaces whole places) (isPower : IsPower power) :
      Lexeme (sign ++ whole ++ places ++ power)
        (if places.isEmpty && power.isEmpty then .integer (sign ++ whole ++ places ++ power) 10
          else .float (sign ++ whole ++ places ++ power))

/-- A hexadecimal digit may go on with a word. -/
theorem isWordPart_of_isHexDigit {letter : Char} (digit : Text.isHexDigit letter = true) :
    Identifier.isWordPart letter = true := by
  unfold Text.isHexDigit Text.digitValue? at digit
  simp only [Identifier.isWordPart, Char.isAlphanum, Bool.or_eq_true, isAlpha_iff]
  by_cases isDigit : letter.isDigit = true
  · exact .inl (.inr isDigit)
  · by_cases isLower : letter.isLower = true
    · exact .inl (.inl (.inr isLower))
    · by_cases isUpper : letter.isUpper = true
      · exact .inl (.inl (.inl isUpper))
      · simp [isDigit, isLower, isUpper] at digit

/-- A number ends where no part of a number follows. -/
theorem boundary_eq_ok_iff {rest : Text} : boundary rest = .ok () ↔ EndsRun isNumberPart rest := by
  cases rest with
  | nil => simp [boundary, EndsRun]
  | cons letter rest =>
      have same : (letter.isAlphanum || letter == '_' || letter == '.') = isNumberPart letter := rfl
      rw [boundary, same]
      cases part : isNumberPart letter <;> simp [EndsRun, part]

/-- Splitting a sign off a text takes it when it is there. -/
theorem splitSign_sound {source sign body : Text} (split : Text.splitSign source = (sign, body)) :
    source = sign ++ body ∧ IsSign sign := by
  unfold Text.splitSign at split
  split at split <;> cases split
  · exact ⟨rfl, .inr (.inl rfl)⟩
  · exact ⟨rfl, .inr (.inr rfl)⟩
  · exact ⟨rfl, .inl rfl⟩

/-- A sign is split from a body that does not start with another one. -/
theorem splitSign_append {sign body : Text} (signed : IsSign sign)
    (unsigned : EndsRun isSignMark body) :
    Text.splitSign (sign ++ body) = (sign, body) := by
  rcases signed with rfl | rfl | rfl
  · cases body with
    | nil => rfl
    | cons letter body =>
        have other := unsigned letter rfl
        simp only [isSignMark, Bool.or_eq_false_iff, beq_eq_false_iff_ne] at other
        rw [List.nil_append, Text.splitSign]
        · exact fun rest same => other.1 (List.cons_eq_cons.mp same).1
        · exact fun rest same => other.2 (List.cons_eq_cons.mp same).1
  · rfl
  · rfl

/-- Hexadecimal digits stand behind a zero and an `x`, up to the first letter that is none. -/
theorem hexDigits?_eq_some_iff {body digits rest : Text} :
    hexDigits? body = some (digits, rest) ↔
      ∃ mark, (mark = 'x' ∨ mark = 'X') ∧ body = '0' :: mark :: (digits ++ rest) ∧ digits ≠ [] ∧
        digits.all Text.isHexDigit = true ∧ EndsRun Text.isHexDigit rest := by
  constructor
  · intro found
    unfold hexDigits? at found
    split at found
    · next mark source =>
      dsimp only at found
      split at found
      · next taken =>
        obtain ⟨first, left⟩ := Prod.mk.inj (Option.some.inj found)
        obtain ⟨rfl, all, ends⟩ := run_eq_iff.mp ⟨first, left⟩
        simp only [Bool.and_eq_true, Bool.or_eq_true, beq_iff_eq, first] at taken
        exact ⟨mark, taken.1, rfl, by simpa using taken.2, all, ends⟩
      · cases found
    · cases found
  · rintro ⟨mark, marked, rfl, stands, all, ends⟩
    obtain ⟨taken, left⟩ := run_eq_iff.mpr ⟨rfl, all, ends⟩
    rw [hexDigits?, taken, left, if_pos]
    simpa [stands] using marked

/-- A point is taken with the digits after it, unless it stands without any digit. -/
theorem fraction_sound {whole source places rest : Text}
    (read : fraction whole source = (places, rest)) :
    source = places ++ rest ∧ IsPlaces whole places := by
  unfold fraction at read
  split at read
  · next inside =>
    dsimp only at read
    split at read
    · cases read
      exact ⟨rfl, .inl rfl⟩
    · next stands =>
      cases read
      refine ⟨by simp, .inr ⟨_, rfl, by simp, ?_⟩⟩
      rw [Bool.and_eq_true, not_and_or, List.isEmpty_iff, List.isEmpty_iff] at stands
      exact stands
  · cases read
    exact ⟨rfl, .inl rfl⟩

/-- A point and its digits are read as the places behind a whole number. -/
theorem fraction_append {whole places rest : Text} (isPlaces : IsPlaces whole places)
    (noPoint : EndsRun (· == '.') rest) (noDigit : EndsRun Char.isDigit rest) :
    fraction whole (places ++ rest) = (places, rest) := by
  rcases isPlaces with rfl | ⟨digits, rfl, all, stands⟩
  · rw [List.nil_append]
    unfold fraction
    split
    · cases noPoint '.' rfl
    · rfl
  · obtain ⟨taken, left⟩ := run_eq_iff.mpr ⟨rfl, all, noDigit⟩
    rw [List.cons_append, fraction, taken, left, if_neg]
    rw [Bool.and_eq_true, not_and_or, List.isEmpty_iff, List.isEmpty_iff]
    exact stands

/-- No letter of a word is a sign. -/
theorem isSignMark_of_isWordPart {letter : Char} (part : Identifier.isWordPart letter = true) :
    isSignMark letter = false := by
  refine Bool.eq_false_iff.mpr fun isSign => ?_
  rw [isSignMark, Bool.or_eq_true, beq_iff_eq, beq_iff_eq] at isSign
  rcases isSign with rfl | rfl <;> cases part

/-- No sign stands in front of digits. -/
theorem digits_unsigned {digits : Text} (all : digits.all Char.isDigit = true) :
    EndsRun isSignMark digits := by
  intro letter found
  have digit := List.all_eq_true.mp all letter (List.mem_of_mem_head? found)
  exact isSignMark_of_isWordPart (isWordPart_of_isDigit digit)

/-- An exponent is taken with its digits, if it has any. -/
theorem exponent_sound {source power rest : Text} (read : exponent source = (power, rest)) :
    source = power ++ rest ∧ IsPower power := by
  cases source with
  | nil =>
      cases read
      exact ⟨rfl, .inl rfl⟩
  | cons mark source =>
      obtain ⟨⟨sign, body⟩, split⟩ : ∃ pair, Text.splitSign source = pair := ⟨_, rfl⟩
      obtain ⟨rfl, signed⟩ := splitSign_sound split
      rw [exponent, split] at read
      dsimp only at read
      split at read
      · next taken =>
        cases read
        simp only [Bool.and_eq_true, Bool.or_eq_true, beq_iff_eq, Bool.not_eq_true',
          List.isEmpty_eq_false_iff] at taken
        exact ⟨by simp, .inr ⟨_, _, _, rfl, taken.1, signed, taken.2, by simp⟩⟩
      · cases read
        exact ⟨rfl, .inl rfl⟩

/-- The mark of an exponent, its sign and its digits are read as the power. -/
theorem exponent_append {power rest : Text} (isPower : IsPower power)
    (noMark : EndsRun (fun letter => letter == 'e' || letter == 'E') rest)
    (noDigit : EndsRun Char.isDigit rest) : exponent (power ++ rest) = (power, rest) := by
  rcases isPower with rfl | ⟨mark, sign, digits, rfl, marked, signed, stands, all⟩
  · cases rest with
    | nil => rfl
    | cons mark rest =>
        have other := noMark mark rfl
        rw [List.nil_append, exponent]
        simp [other]
  · obtain ⟨digit, others, same⟩ := List.exists_cons_of_ne_nil stands
    have unsigned : EndsRun isSignMark (digits ++ rest) := by
      rw [same, List.all_cons, Bool.and_eq_true] at all
      rw [same]
      exact endsRun_cons _ (isSignMark_of_isWordPart (isWordPart_of_isDigit all.1))
    obtain ⟨taken, left⟩ := run_eq_iff.mpr ⟨rfl, all, noDigit⟩
    rw [List.append_assoc, List.cons_append, exponent, splitSign_append signed unsigned]
    simp [taken, left, marked, stands]

/-- Places start with their point, so they end every run that has no point in it. -/
theorem IsPlaces.endsRun {whole places : Text} (isPlaces : IsPlaces whole places)
    (kind : Char → Bool) (other : kind '.' = false) : EndsRun kind places := by
  rcases isPlaces with rfl | ⟨digits, rfl, _⟩
  · intro letter found
    cases found
  · exact endsRun_cons _ other

/-- A power starts with its mark, so it ends every run that has no `e` in it. -/
theorem IsPower.endsRun {kind : Char → Bool} {power : Text} (isPower : IsPower power)
    (others : kind 'e' = false ∧ kind 'E' = false) : EndsRun kind power := by
  rcases isPower with rfl | ⟨mark, sign, digits, rfl, marked, _⟩
  · intro letter found
    cases found
  · rcases marked with rfl | rfl
    · exact endsRun_cons _ others.1
    · exact endsRun_cons _ others.2

/-- A decimal number is no hexadecimal one, since no `x` follows its first zero. -/
theorem hexDigits?_decimal {whole rest : Text} (all : whole.all Char.isDigit = true)
    (noMark : EndsRun (fun letter => letter == 'x' || letter == 'X') rest)
    (noZero : whole = [] → EndsRun (· == '0') rest) : hexDigits? (whole ++ rest) = none := by
  cases found : hexDigits? (whole ++ rest) with
  | none => rfl
  | some pair =>
      obtain ⟨mark, marked, same, _⟩ := hexDigits?_eq_some_iff.mp found
      exfalso
      cases whole with
      | nil =>
          rw [List.nil_append] at same
          cases noZero rfl '0' (by rw [same]; rfl)
      | cons zero whole =>
          obtain ⟨_, same⟩ := List.cons_eq_cons.mp same
          cases whole with
          | nil =>
              have other := noMark mark (by rw [show rest = _ from same]; rfl)
              rcases marked with rfl | rfl <;> cases other
          | cons second whole =>
              obtain ⟨rfl, _⟩ := List.cons_eq_cons.mp same
              rcases marked with rfl | rfl <;> simp at all

/-- A decimal number that is read is a number literal in front of what is no part of a number. -/
theorem decimal_sound {source sign body rest : Text} {value : Literal} (signed : IsSign sign)
    (read : decimal source sign body = .ok (value, rest)) :
    ∃ lexeme, sign ++ body = lexeme ++ rest ∧ Lexeme lexeme value ∧ EndsRun isNumberPart rest := by
  unfold decimal at read
  obtain ⟨⟨places, behind⟩, pointed⟩ : ∃ pair,
    fraction (body.takeWhile Char.isDigit) (body.dropWhile Char.isDigit) = pair := ⟨_, rfl⟩
  obtain ⟨⟨power, left⟩, scaled⟩ : ∃ pair, exponent behind = pair := ⟨_, rfl⟩
  have whole : body.takeWhile Char.isDigit ++ body.dropWhile Char.isDigit = body :=
    List.takeWhile_append_dropWhile
  obtain ⟨splits, isPlaces⟩ := fraction_sound pointed
  obtain ⟨rfl, isPower⟩ := exponent_sound scaled
  simp only [pointed, scaled] at read
  split at read
  · cases read
  · next stands =>
    obtain ⟨_, bounded, same⟩ := bind_eq_ok_iff.mp read
    cases same
    rw [Bool.and_eq_true, not_and_or, List.isEmpty_iff, List.isEmpty_iff] at stands
    refine ⟨_, ?_, .decimal signed (by simp) stands isPlaces isPower, boundary_eq_ok_iff.mp bounded⟩
    rw [splits] at whole
    calc sign ++ body = sign ++ (body.takeWhile Char.isDigit ++ (places ++ (power ++ rest))) :=
          congrArg (sign ++ ·) whole.symm
      _ = sign ++ body.takeWhile Char.isDigit ++ places ++ power ++ rest := by
          simp only [List.append_assoc]

/-- Digits, places and a power are read together as one number. -/
theorem decimal_complete {source sign whole places power rest : Text}
    (all : whole.all Char.isDigit = true) (stands : whole ≠ [] ∨ places ≠ [])
    (isPlaces : IsPlaces whole places) (isPower : IsPower power) (ends : EndsRun isNumberPart rest) :
    decimal source sign (whole ++ (places ++ (power ++ rest))) =
      .ok (if places.isEmpty && power.isEmpty then .integer (sign ++ whole ++ places ++ power) 10
        else .float (sign ++ whole ++ places ++ power), rest) := by
  have noDigit : EndsRun Char.isDigit rest := endsRun_of_imp ends fun letter digit => by
    rw [isNumberPart, isWordPart_of_isDigit digit, Bool.true_or]
  have noMark : EndsRun (fun letter => letter == 'e' || letter == 'E') rest :=
    endsRun_of_imp ends fun letter mark => by
      rw [Bool.or_eq_true, beq_iff_eq, beq_iff_eq] at mark
      rcases mark with rfl | rfl <;> rfl
  have noPoint : EndsRun (· == '.') rest := endsRun_of_imp ends fun letter point => by
    rw [isNumberPart, point, Bool.or_true]
  have powerEnds : EndsRun Char.isDigit (power ++ rest) := (isPower.endsRun ⟨rfl, rfl⟩).append noDigit
  obtain ⟨taken, left⟩ := run_eq_iff.mpr
    ⟨rfl, all, (isPlaces.endsRun Char.isDigit rfl).append powerEnds⟩
  have pointed : fraction whole (places ++ (power ++ rest)) = (places, power ++ rest) :=
    fraction_append isPlaces ((isPower.endsRun ⟨rfl, rfl⟩).append noPoint) powerEnds
  have scaled := exponent_append isPower noMark noDigit
  have someDigit : ¬ (whole.isEmpty && places.isEmpty) = true := by
    rw [Bool.and_eq_true, not_and_or, List.isEmpty_iff, List.isEmpty_iff]
    exact stands
  simp only [decimal, taken, left, pointed, scaled, someDigit, boundary_eq_ok_iff.mpr ends, ok_bind,
    pure_eq_ok, if_false, Bool.false_eq_true]

/-- The body of a decimal number does not start with a sign. -/
theorem decimal_unsigned {whole places : Text} (rest : Text) (all : whole.all Char.isDigit = true)
    (stands : whole ≠ [] ∨ places ≠ []) (isPlaces : IsPlaces whole places) :
    EndsRun isSignMark (whole ++ (places ++ rest)) := by
  cases whole with
  | nil =>
      rcases isPlaces with rfl | ⟨digits, rfl, _⟩
      · simp at stands
      · exact endsRun_cons _ rfl
  | cons digit whole =>
      rw [List.all_cons, Bool.and_eq_true] at all
      exact endsRun_cons _ (isSignMark_of_isWordPart (isWordPart_of_isDigit all.1))

/-- A number is read exactly when a lexeme stands in front of a rest that it does not run into. -/
theorem literal_eq_ok_iff {source rest : Text} {value : Literal} :
    literal source = .ok (value, rest) ↔
      ∃ lexeme, source = lexeme ++ rest ∧ Lexeme lexeme value ∧ EndsRun isNumberPart rest := by
  constructor
  · intro read
    obtain ⟨⟨sign, body⟩, split⟩ : ∃ pair, Text.splitSign source = pair := ⟨_, rfl⟩
    obtain ⟨rfl, signed⟩ := splitSign_sound split
    simp only [literal, split] at read
    cases found : hexDigits? body with
    | none =>
        rw [found] at read
        exact decimal_sound signed read
    | some pair =>
        obtain ⟨mark, marked, rfl, stands, all, _⟩ := hexDigits?_eq_some_iff.mp found
        rw [found] at read
        obtain ⟨_, bounded, same⟩ := bind_eq_ok_iff.mp read
        cases same
        exact ⟨_, by simp, .hexadecimal signed marked stands all, boundary_eq_ok_iff.mp bounded⟩
  · rintro ⟨lexeme, rfl, form, ends⟩
    cases form with
    | @hexadecimal sign digits mark signed marked stands all =>
        have split : Text.splitSign (sign ++ '0' :: mark :: digits ++ rest) =
            (sign, '0' :: mark :: (digits ++ rest)) := by
          rw [List.append_assoc]
          exact splitSign_append signed (endsRun_cons _ rfl)
        -- A rest that the number does not run into ends its digits too.
        have noDigit : EndsRun Text.isHexDigit rest := endsRun_of_imp ends fun letter digit => by
          rw [isNumberPart, isWordPart_of_isHexDigit digit, Bool.true_or]
        have found := hexDigits?_eq_some_iff.mpr ⟨mark, marked, rfl, stands, all, noDigit⟩
        simp only [literal, split, found, boundary_eq_ok_iff.mpr ends, ok_bind, pure_eq_ok]
    | @decimal sign whole places power signed all stands isPlaces isPower =>
        have unsigned := decimal_unsigned (power ++ rest) all stands isPlaces
        have noMark : EndsRun (fun letter => letter == 'x' || letter == 'X') rest :=
          endsRun_of_imp ends fun letter mark => by
            rw [Bool.or_eq_true, beq_iff_eq, beq_iff_eq] at mark
            rcases mark with rfl | rfl <;> rfl
        -- Without digits in front of it the number starts with its point, so no `0x` is found there.
        have noZero (empty : whole = []) : EndsRun (· == '0') (places ++ (power ++ rest)) := by
          obtain ⟨point, digits, same⟩ := List.exists_cons_of_ne_nil (stands.resolve_left (not_not.mpr empty))
          have ends := isPlaces.endsRun (· == '0') rfl
          rw [same] at ends ⊢
          exact ends
        have noHex := hexDigits?_decimal all
          ((isPlaces.endsRun _ rfl).append ((isPower.endsRun ⟨rfl, rfl⟩).append noMark)) noZero
        simp only [List.append_assoc, literal, splitSign_append signed unsigned, noHex]
        simpa only [List.append_assoc] using decimal_complete all stands isPlaces isPower ends

/-- A number literal is not empty. -/
theorem Lexeme.stands {lexeme : Text} {value : Literal} (form : Lexeme lexeme value) : lexeme ≠ [] := by
  cases form with
  | hexadecimal _ _ _ _ => simp
  | decimal _ _ stands _ _ =>
      rcases stands with stands | stands <;> simp [stands]

/-- A number takes at least one letter. -/
theorem literal_consumes : Consumes literal := by
  intro source value rest read
  obtain ⟨lexeme, rfl, form, _⟩ := literal_eq_ok_iff.mp read
  exact properEnd_append rest form.stands

/-- Behind its sign a number starts with a digit or a point. -/
theorem Lexeme.shape {lexeme : Text} {value : Literal} (form : Lexeme lexeme value) :
    ∃ sign letter tail, lexeme = sign ++ letter :: tail ∧ IsSign sign ∧
      (letter.isDigit = true ∨ letter = '.') := by
  cases form with
  | @hexadecimal sign _ _ signed _ _ _ => exact ⟨sign, _, _, rfl, signed, .inl rfl⟩
  | @decimal sign whole places power signed all stands isPlaces _ =>
      cases whole with
      | nil =>
          rcases isPlaces with rfl | ⟨digits, rfl, _⟩
          · simp at stands
          · exact ⟨sign, '.', digits ++ power, by simp, signed, .inr rfl⟩
      | cons digit whole =>
          rw [List.all_cons, Bool.and_eq_true] at all
          exact ⟨sign, digit, whole ++ (places ++ power), by simp, signed, .inl all.1⟩

/-- A number starts with a digit, a point or a sign. -/
theorem Lexeme.starts {lexeme : Text} {value : Literal} (form : Lexeme lexeme value) :
    ∃ letter rest, lexeme = letter :: rest ∧ isNumberStart letter = true := by
  obtain ⟨sign, letter, tail, rfl, signed, first⟩ := form.shape
  have starts : isNumberStart letter = true := by
    rcases first with digit | rfl
    · simp [isNumberStart, digit]
    · rfl
  rcases signed with rfl | rfl | rfl
  · exact ⟨letter, tail, rfl, starts⟩
  · exact ⟨_, _, rfl, rfl⟩
  · exact ⟨_, _, rfl, rfl⟩

/-- No trivia starts with a number: behind a minus sign there is no other. -/
theorem Lexeme.solid {lexeme : Text} {value : Literal} (form : Lexeme lexeme value) (more : Text) :
    skipTrivia (lexeme ++ more) = .ok (lexeme ++ more) := by
  obtain ⟨sign, letter, tail, rfl, signed, first⟩ := form.shape
  rcases signed with rfl | rfl | rfl
  · rcases first with digit | rfl
    · exact skipTrivia_solid _ (isWordPart_solid (isWordPart_of_isDigit digit))
    · exact skipTrivia_solid _ (by decide)
  · exact skipTrivia_solid _ (by decide)
  · have noMinus : letter ≠ '-' := by
      rintro rfl
      rcases first with digit | same
      · cases digit
      · cases same
    have noBlank : Text.isBlank '-' = false := by decide
    apply skip_of_not_startsTrivia
    simp [startsTrivia, List.isPrefixOf, noBlank, Ne.symm noMinus]

/-- A number starts with a sign, a digit or a point. -/
theorem literal_starts {source rest : Text} {value : Literal}
    (read : literal source = .ok (value, rest)) :
    ∃ letter tail, source = letter :: tail ∧ isNumberStart letter = true := by
  obtain ⟨lexeme, rfl, form, _⟩ := literal_eq_ok_iff.mp read
  obtain ⟨letter, tail, rfl, starts⟩ := form.starts
  exact ⟨letter, tail ++ rest, rfl, starts⟩

/-- A break does not go on with a number. -/
theorem breaks_endsNumber {more : Text} (breaks : Breaks more) : EndsRun isNumberPart more := by
  intro letter found
  have ends := breaks letter found
  simp only [isBreak, Bool.not_eq_true', Bool.or_eq_false_iff, List.contains_cons] at ends
  rw [isNumberPart, ends.1, ends.2.1, Bool.or_false]

/-- A break behind a number does not change how it is read. -/
theorem literal_append {source rest more : Text} {value : Literal} (breaks : Breaks more)
    (read : literal source = .ok (value, rest)) :
    literal (source ++ more) = .ok (value, rest ++ more) := by
  obtain ⟨lexeme, rfl, form, ends⟩ := literal_eq_ok_iff.mp read
  exact literal_eq_ok_iff.mpr ⟨lexeme, List.append_assoc lexeme rest more, form,
    ends.append (breaks_endsNumber breaks)⟩

/-- A number is written as a lexeme of its own. -/
theorem Lexeme.sql {lexeme : Text} {value : Literal} (form : Lexeme lexeme value) :
    Lexeme value.sql value := by
  cases form with
  | @hexadecimal sign digits mark signed marked stands all =>
      have unsigned : EndsRun isSignMark digits := by
        obtain ⟨digit, others, rfl⟩ := List.exists_cons_of_ne_nil stands
        rw [List.all_cons, Bool.and_eq_true] at all
        exact endsRun_cons _ (isSignMark_of_isWordPart (isWordPart_of_isHexDigit all.1))
      have written : Literal.sql (.integer (sign ++ digits) 16) = sign ++ '0' :: 'x' :: digits := by
        rw [Literal.sql_integer, Literal.integerText, if_pos rfl, splitSign_append signed unsigned,
          List.append_assoc]
        rfl
      rw [written]
      exact .hexadecimal signed (.inl rfl) stands all
  | @decimal sign whole places power signed all stands isPlaces isPower =>
      have form := Lexeme.decimal signed all stands isPlaces isPower
      split at form
      · next integer =>
        rw [if_pos integer, Literal.sql_integer, Literal.integerText, if_neg (by decide)]
        exact form
      · next float =>
        rw [if_neg float, Literal.sql_float]
        exact form

end Grammar.Number

end ParamCodec
