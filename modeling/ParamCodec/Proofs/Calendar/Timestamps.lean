import ParamCodec.Calendar.Timestamp
import ParamCodec.Decimal.Shortest
import ParamCodec.Proofs.Grammar.Word
import ParamCodec.Proofs.Text.Digits

namespace ParamCodec

namespace Date

/-- A date is valid when its month and its day are within their bounds. -/
theorem isValid_iff {date : Date} : date.isValid = true ↔
    (1 ≤ date.month ∧ date.month ≤ 12) ∧ 1 ≤ date.day ∧ date.day ≤ daysInMonth date.year date.month := by
  simp [isValid, and_assoc]

/-- Every month has a day. -/
theorem daysInMonth_pos (year : Int) (month : Nat) : 1 ≤ daysInMonth year month := by
  unfold daysInMonth
  split_ifs <;> decide

/-- No month has more than 31 days. -/
theorem daysInMonth_le (year : Int) (month : Nat) : daysInMonth year month ≤ 31 := by
  unfold daysInMonth
  split_ifs <;> decide

/-- The day after a valid date is valid. -/
theorem isValid_next {date : Date} (valid : date.isValid = true) : date.next.isValid = true := by
  obtain ⟨⟨least, greatest⟩, first, last⟩ := isValid_iff.mp valid
  unfold next
  split_ifs with sameMonth sameYear
  · exact isValid_iff.mpr ⟨⟨least, greatest⟩, Nat.le_add_left 1 _, sameMonth⟩
  · exact isValid_iff.mpr ⟨⟨Nat.le_add_left 1 _, sameYear⟩, le_rfl, daysInMonth_pos _ _⟩
  · exact isValid_iff.mpr ⟨⟨le_rfl, Nat.le_of_ble_eq_true rfl⟩, le_rfl, daysInMonth_pos _ _⟩

/-- The day before a valid date is valid. -/
theorem isValid_previous {date : Date} (valid : date.isValid = true) : date.previous.isValid = true := by
  obtain ⟨⟨least, greatest⟩, first, last⟩ := isValid_iff.mp valid
  unfold previous
  split_ifs with sameMonth sameYear
  · exact isValid_iff.mpr ⟨⟨least, greatest⟩, Nat.le_sub_one_of_lt sameMonth, (Nat.sub_le _ _).trans last⟩
  · exact isValid_iff.mpr ⟨⟨Nat.le_sub_one_of_lt sameYear, (Nat.sub_le _ _).trans greatest⟩,
      daysInMonth_pos _ _, le_rfl⟩
  · exact isValid_iff.mpr ⟨⟨Nat.le_add_left 1 11, le_rfl⟩, Nat.le_add_left 1 30, le_rfl⟩

end Date

namespace Timestamp

open Grammar

/-- A day of the calendar, a minute of the day and a second of the minute. A leap second counts as
nanoseconds. -/
structure IsPoint (timestamp : Timestamp) : Prop where
  date : timestamp.date.isValid = true
  minute : timestamp.minute < minutesPerDay
  second : timestamp.second ≤ 59
  nanosecond : timestamp.nanosecond < 2 * nanosecondsPerSecond

/-- Another clock that is less than a day away shows a point of the day before, of the same day or of the
next day. -/
theorem IsPoint.setBack {timestamp : Timestamp} (point : timestamp.IsPoint) {minutes : Int}
    (least : -minutesPerDay < minutes) (greatest : minutes < minutesPerDay) :
    (timestamp.setBack minutes).IsPoint := by
  have bound := point.minute
  unfold Timestamp.setBack
  dsimp only
  split_ifs with before behind
  · exact ⟨Date.isValid_previous point.date, by dsimp only; omega, point.second, point.nanosecond⟩
  · exact ⟨Date.isValid_next point.date, by dsimp only; omega, point.second, point.nanosecond⟩
  · exact ⟨point.date, by dsimp only; omega, point.second, point.nanosecond⟩

/-- Setting the clock back by minutes keeps the part of a second. -/
theorem nanosecond_setBack (timestamp : Timestamp) (minutes : Int) :
    (timestamp.setBack minutes).nanosecond = timestamp.nanosecond := by
  unfold setBack
  dsimp only
  split_ifs <;> rfl

/-- A clock that is set back by nothing stands as before. -/
theorem setBack_zero {timestamp : Timestamp} (inDay : timestamp.minute < minutesPerDay) :
    timestamp.setBack 0 = timestamp := by
  unfold setBack
  dsimp only
  rw [if_neg (by omega), if_neg (by omega)]
  simp

/-- A number of a fixed width is read exactly where so many digits stand. -/
theorem exactly?_eq_some_iff {count value : Nat} {source rest : Text} :
    exactly? count source = some (value, rest) ↔
      ∃ digits, source = digits ++ rest ∧ digits.length = count ∧ digits.all Char.isDigit = true ∧
        value = Text.decimalValue digits := by
  constructor
  · intro read
    rw [exactly?, Option.ite_none_right_eq_some] at read
    obtain ⟨full, same⟩ := read
    cases same
    have kept := List.length_filter_le Char.isDigit (source.take count)
    have taken := List.length_take_le count source
    have whole : ((source.take count).filter Char.isDigit).length = (source.take count).length := by omega
    refine ⟨source.take count, (List.take_append_drop count source).symm, by omega, ?_, rfl⟩
    exact List.all_eq_true.mpr (List.length_filter_eq_length_iff.mp whole)
  · rintro ⟨digits, rfl, rfl, all, rfl⟩
    rw [exactly?, List.take_left, List.drop_left, if_pos]
    exact List.length_filter_eq_length_iff.mpr (List.all_eq_true.mp all)

/-- A number filled up to its width is read back. -/
theorem exactly?_padLeft {width value : Nat} (stands : 0 < width) (small : value < 10 ^ width) (rest : Text) :
    exactly? width (Text.padLeft width (Text.decimal value) ++ rest) = some (value, rest) :=
  exactly?_eq_some_iff.mpr ⟨_, rfl, Text.length_padLeft stands small, Text.padLeft_isDigit _ _,
    (Text.decimalValue_padLeft _ _).symm⟩

/-- Digits hold no other letters. -/
theorem not_mem_of_isDigit {letter : Char} {digits : Text} (all : digits.all Char.isDigit = true)
    (other : letter.isDigit = false) : letter ∉ digits := by
  intro member
  rw [List.all_eq_true.mp all letter member] at other
  cases other

/-- Nothing, or a point and digits. -/
inductive FractionForm : Text → Text → Text → Prop
  | none {rest : Text} (ends : startsWith '.' rest = false) : FractionForm rest [] rest
  | digits {digits rest : Text} (stands : digits ≠ []) (all : digits.all Char.isDigit = true)
      (ends : EndsRun Char.isDigit rest) : FractionForm ('.' :: (digits ++ rest)) digits rest

/-- The nanoseconds that digits behind a point denote. -/
def nanoseconds (digits : Text) : Nat :=
  Text.decimalValue (digits.take 9) * 10 ^ (9 - (digits.take 9).length)

/-- A part of a second is read exactly where its form stands, as the nanoseconds of its digits. -/
theorem fraction?_eq_some_iff {source rest : Text} {nanosecond : Nat} :
    fraction? source = some (nanosecond, rest) ↔
      ∃ digits, FractionForm source digits rest ∧ nanosecond = nanoseconds digits := by
  constructor
  · intro read
    unfold fraction? at read
    split at read
    · next inside =>
      dsimp only at read
      split at read
      · cases read
      · next stands =>
        cases read
        obtain ⟨whole, all, ends⟩ := run_eq_iff.mp
          ⟨(rfl : inside.takeWhile Char.isDigit = _), (rfl : inside.dropWhile Char.isDigit = _)⟩
        have form := FractionForm.digits (by simpa using stands) all ends
        rw [← whole] at form
        exact ⟨_, form, rfl⟩
    · next noPoint =>
      cases read
      refine ⟨[], .none (Bool.eq_false_iff.mpr fun starts => ?_), rfl⟩
      obtain ⟨inside, rfl⟩ := startsWith_iff.mp starts
      exact noPoint inside rfl
  · rintro ⟨digits, form, rfl⟩
    cases form with
    | none ends =>
        unfold fraction?
        split
        · cases ends
        · rfl
    | digits stands all ends =>
        obtain ⟨taken, left⟩ := run_eq_iff.mpr ⟨rfl, all, ends⟩
        rw [fraction?, taken, left]
        simp [stands, nanoseconds]

/-- Only letters other than the point stand in front of the rest. -/
def ReachesPoint (source rest : Text) : Prop := ∃ front, source = front ++ rest ∧ '.' ∉ front

namespace ReachesPoint

/-- A point that is reached in two stretches is reached in one. -/
theorem trans {source middle rest : Text} (first : ReachesPoint source middle)
    (second : ReachesPoint middle rest) : ReachesPoint source rest := by
  obtain ⟨front, rfl, free⟩ := first
  obtain ⟨more, rfl, moreFree⟩ := second
  exact ⟨front ++ more, (List.append_assoc _ _ _).symm, by simp [free, moreFree]⟩

/-- A letter other than the point is on the way. -/
theorem cons {letter : Char} (other : letter ≠ '.') (rest : Text) : ReachesPoint (letter :: rest) rest :=
  ⟨[letter], rfl, by simpa using other.symm⟩

/-- A number of a fixed width is on the way. -/
theorem digits {count value : Nat} {source rest : Text} (read : exactly? count source = some (value, rest)) :
    ReachesPoint source rest := by
  obtain ⟨digits, whole, _, all, _⟩ := exactly?_eq_some_iff.mp read
  exact ⟨digits, whole, not_mem_of_isDigit all rfl⟩

/-- A mark other than the point is on the way. -/
theorem mark {letter : Char} {source rest : Text} (read : Text.after? [letter] source = some rest)
    (other : letter ≠ '.') : ReachesPoint source rest := by
  rw [after?_eq_some_iff.mp read, List.singleton_append]
  exact cons other rest

/-- A number and the mark behind it are on the way. -/
theorem field {count value : Nat} {letter : Char} {source middle rest : Text}
    (read : exactly? count source = some (value, middle)) (marked : Text.after? [letter] middle = some rest)
    (other : letter ≠ '.') : ReachesPoint source rest :=
  (digits read).trans (mark marked other)

/-- A text without a point and the letter behind it are on the way. -/
theorem part {front : Text} {letter : Char} (free : '.' ∉ front) (other : letter ≠ '.') (rest : Text) :
    ReachesPoint (front ++ letter :: rest) rest :=
  ⟨front ++ [letter], by simp, by simp [free, other.symm]⟩

end ReachesPoint

/-- A clock is less than a day ahead of another one or behind it. -/
theorem offset?_sound {source rest : Text} {ahead : Int} (read : offset? source = some (ahead, rest)) :
    ReachesPoint source rest ∧ -minutesPerDay < ahead ∧ ahead < minutesPerDay := by
  cases source with
  | nil => cases read
  | cons sign source =>
      unfold offset? at read
      dsimp only at read
      split at read
      · next isZero =>
        cases read
        refine ⟨.cons ?_ _, by decide, by decide⟩
        rcases isZero with rfl | rfl <;> decide
      · split at read
        · next isSign =>
          obtain ⟨⟨hours, source1⟩, readHours, read⟩ := Option.bind_eq_some_iff.mp read
          obtain ⟨source2, colon, read⟩ := Option.bind_eq_some_iff.mp read
          obtain ⟨⟨minutes, source3⟩, readMinutes, read⟩ := Option.bind_eq_some_iff.mp read
          dsimp only at read
          rw [Option.ite_none_left_eq_some] at read
          obtain ⟨small, same⟩ := read
          cases same
          simp only [Bool.or_eq_true, decide_eq_true_eq, not_or, not_lt] at small
          have reaches := (ReachesPoint.field readHours colon (by decide)).trans (.digits readMinutes)
          refine ⟨.trans (.cons ?_ _) reaches, ?_⟩
          · rcases isSign with rfl | rfl | rfl <;> decide
          · unfold minutesPerDay
            split_ifs <;> omega
        · cases read

/-- The digits behind the first point of a text. -/
def fractionDigits (source : Text) : Text := (source.dropWhile (· ≠ '.')).tail.takeWhile Char.isDigit

/-- Only digits count behind the point. -/
theorem fractionDigits_isDigit (source : Text) : (fractionDigits source).all Char.isDigit = true :=
  List.all_takeWhile

/-- The digits behind the point stay the same when what stands on the way is left out. -/
theorem ReachesPoint.fractionDigits_eq {source rest : Text} (reaches : ReachesPoint source rest) :
    fractionDigits source = fractionDigits rest := by
  obtain ⟨front, rfl, free⟩ := reaches
  rw [fractionDigits, List.dropWhile_append_of_pos, fractionDigits]
  intro letter member
  exact decide_eq_true (ne_of_mem_of_not_mem member free)

/-- The digits behind the point are those of the part of a second. -/
theorem FractionForm.fractionDigits_eq {source digits rest : Text} (form : FractionForm source digits rest)
    (free : ReachesPoint rest []) : fractionDigits source = digits := by
  cases form with
  | none _ => exact free.fractionDigits_eq
  | digits _ all ends => exact (run_eq_iff.mpr ⟨rfl, all, ends⟩).1

/-- A text is read as the point of a clock, which is set back by as much as it is ahead. -/
theorem read?_inv {source : Text} {timestamp : Timestamp} (read : read? source = some timestamp) :
    ∃ (rest tail : Text) (date : Date) (hour minute second nanosecond : Nat) (ahead : Int),
      ReachesPoint source rest ∧ fraction? rest = some (nanosecond, tail) ∧
      offset? tail = some (ahead, []) ∧ date.isValid = true ∧ hour ≤ 23 ∧ minute ≤ 59 ∧
      timestamp = setBack ⟨date, hour * 60 + minute, min second 59,
        nanosecond + if second = 60 then nanosecondsPerSecond else 0⟩ ahead := by
  unfold read? at read
  -- The reader is peeled apart step by step; each step leaves the source of the next one.
  obtain ⟨⟨year, source1⟩, readYear, read⟩ := Option.bind_eq_some_iff.mp read
  obtain ⟨source2, hyphen, read⟩ := Option.bind_eq_some_iff.mp read
  obtain ⟨⟨month, source3⟩, readMonth, read⟩ := Option.bind_eq_some_iff.mp read
  obtain ⟨source4, secondHyphen, read⟩ := Option.bind_eq_some_iff.mp read
  obtain ⟨⟨day, source5⟩, readDay, read⟩ := Option.bind_eq_some_iff.mp read
  have yearMonth : ReachesPoint source source4 :=
    (ReachesPoint.field readYear hyphen (by decide)).trans (.field readMonth secondHyphen (by decide))
  have date : ReachesPoint source source5 := yearMonth.trans (.digits readDay)
  dsimp only at read
  split at read
  · next letter source6 =>
    split at read
    · next isLetter =>
      obtain ⟨_, same, read⟩ := Option.bind_eq_some_iff.mp read
      cases same
      obtain ⟨⟨hour, source7⟩, readHour, read⟩ := Option.bind_eq_some_iff.mp read
      obtain ⟨source8, colon, read⟩ := Option.bind_eq_some_iff.mp read
      obtain ⟨⟨minute, source9⟩, readMinute, read⟩ := Option.bind_eq_some_iff.mp read
      obtain ⟨source10, secondColon, read⟩ := Option.bind_eq_some_iff.mp read
      obtain ⟨⟨second, source11⟩, readSecond, read⟩ := Option.bind_eq_some_iff.mp read
      obtain ⟨⟨nanosecond, source12⟩, readFraction, read⟩ := Option.bind_eq_some_iff.mp read
      obtain ⟨⟨ahead, rest⟩, readOffset, read⟩ := Option.bind_eq_some_iff.mp read
      dsimp only at colon secondColon readFraction readOffset read
      rw [Option.ite_none_left_eq_some] at read
      obtain ⟨sound, same⟩ := read
      simp only [Bool.or_eq_true, Bool.not_eq_true', decide_eq_true_eq, not_or, not_lt,
        Bool.not_eq_false, List.isEmpty_iff] at sound
      obtain ⟨⟨⟨⟨rfl, valid⟩, hours⟩, minutes⟩, seconds⟩ := sound
      have separator : ReachesPoint (letter :: source6) source6 :=
        .cons (by rcases isLetter with rfl | rfl | rfl <;> decide) source6
      have hourMinute : ReachesPoint source6 source10 :=
        (ReachesPoint.field readHour colon (by decide)).trans (.field readMinute secondColon (by decide))
      have clock : ReachesPoint source6 source11 := hourMinute.trans (.digits readSecond)
      exact ⟨source11, source12, _, hour, minute, second, nanosecond, ahead,
        date.trans (separator.trans clock), readFraction, readOffset, valid, hours, minutes,
        (Option.some.inj same).symm⟩
    · cases read
  · cases read

/-- The part of a second consists of digits. -/
theorem FractionForm.isDigit {source digits rest : Text} (form : FractionForm source digits rest) :
    digits.all Char.isDigit = true := by
  cases form with
  | none _ => rfl
  | digits _ all _ => exact all

/-- A part of a second is less than a second. -/
theorem nanoseconds_lt {digits : Text} (all : digits.all Char.isDigit = true) :
    nanoseconds digits < nanosecondsPerSecond := by
  have taken : (digits.take 9).all Char.isDigit = true :=
    List.all_eq_true.mpr fun letter member => List.all_eq_true.mp all letter (List.mem_of_mem_take member)
  have short := List.length_take_le 9 digits
  calc nanoseconds digits
      < 10 ^ (digits.take 9).length * 10 ^ (9 - (digits.take 9).length) :=
        Nat.mul_lt_mul_of_pos_right (Text.decimalValue_lt taken) (Nat.pow_pos (by decide))
    _ = nanosecondsPerSecond := by
        rw [← pow_add, Nat.add_sub_cancel' short]
        rfl

/-- The nanoseconds are the first nine places of the fraction. -/
theorem nanoseconds_eq_fraction (digits : Text) :
    (nanoseconds digits : ℚ) = Text.fraction (digits.take 9) * 10 ^ 9 := by
  have short := List.length_take_le 9 digits
  have split : (10 : ℚ) ^ 9 = 10 ^ (digits.take 9).length * 10 ^ (9 - (digits.take 9).length) := by
    rw [← pow_add, Nat.add_sub_cancel' short]
  have power : (10 : ℚ) ^ (digits.take 9).length ≠ 0 := by positivity
  rw [Text.fraction, split, ← mul_assoc, div_mul_cancel₀ _ power, nanoseconds]
  push_cast
  rfl

/-- What is read is a point in time that has the nanoseconds behind the point of the text; a leap second
adds a whole second of them. -/
theorem read?_sound {source : Text} {timestamp : Timestamp} (read : read? source = some timestamp) :
    timestamp.IsPoint ∧ (timestamp.nanosecond = nanoseconds (fractionDigits source) ∨
      timestamp.nanosecond = nanoseconds (fractionDigits source) + nanosecondsPerSecond) := by
  obtain ⟨rest, tail, date, hour, minute, second, nanosecond, ahead, reaches, readFraction, readOffset,
    valid, hours, minutes, rfl⟩ := read?_inv read
  obtain ⟨digits, form, rfl⟩ := fraction?_eq_some_iff.mp readFraction
  obtain ⟨free, least, greatest⟩ := offset?_sound readOffset
  have small := nanoseconds_lt form.isDigit
  rw [nanosecond_setBack, reaches.fractionDigits_eq, form.fractionDigits_eq free]
  dsimp only
  refine ⟨.setBack ⟨valid, ?_, Nat.min_le_right _ _, ?_⟩ least greatest, ?_⟩
  · unfold minutesPerDay
    dsimp only
    omega
  · dsimp only
    split_ifs <;> omega
  · split_ifs
    · exact .inr rfl
    · exact .inl rfl

/-- The digits that are shown behind the point. -/
def places (nanosecond : Nat) : Text :=
  if nanosecond = 0 then [] else Shortest.withoutTrailingZeros (Text.padLeft 9 (Text.decimal nanosecond))

/-- The digits that are shown denote the nanoseconds at the width that they are filled up to. -/
theorem fraction_places {nanosecond width : Nat}
    (full : (Text.padLeft 9 (Text.decimal nanosecond)).length = width) :
    Text.fraction (places nanosecond) = nanosecond / 10 ^ width := by
  unfold places
  split_ifs with zero
  · rw [zero, Nat.cast_zero, zero_div]
    exact zero_div _
  · have same := Text.fraction_withoutZeros (Text.padLeft_isDigit 9 nanosecond)
    rw [Shortest.withoutTrailingZeros, same, Text.fraction, Text.decimalValue_padLeft, full]

/-- In a leap second the counter outgrows its nine places. -/
theorem length_padLeft_leap {nanosecond : Nat} (leap : nanosecondsPerSecond ≤ nanosecond)
    (small : nanosecond < 2 * nanosecondsPerSecond) :
    (Text.padLeft 9 (Text.decimal nanosecond)).length = 10 := by
  have most : (Text.decimal nanosecond).length ≤ 10 := by
    refine (Nat.length_toDigits_le_iff (by decide) (by decide)).mpr ?_
    unfold nanosecondsPerSecond at small
    omega
  have least : ¬ (Text.decimal nanosecond).length ≤ 9 := by
    rw [Text.decimal, Nat.length_toDigits_le_iff (by decide) (by decide)]
    exact not_lt.mpr leap
  rw [Text.padLeft, List.length_append, List.length_replicate]
  omega

/-- A part of a second is shown in its form, with the zone behind it. -/
theorem fractionText_form (nanosecond : Nat) :
    FractionForm (fractionText nanosecond ++ ['Z']) (places nanosecond) ['Z'] := by
  by_cases zero : nanosecond = 0
  · subst zero
    exact .none rfl
  · have text : fractionText nanosecond = '.' :: places nanosecond := by
      rw [fractionText, places, if_neg zero, if_neg zero]
      rfl
    rw [text, places, if_neg zero]
    refine .digits (Text.withoutZeros_ne_nil ?_) (Text.withoutZeros_isDigit (Text.padLeft_isDigit 9 _))
      (endsRun_cons _ rfl)
    rwa [Text.decimalValue_padLeft]

/-- Less than a second is shown with nine digits at most. -/
theorem length_places {nanosecond : Nat} (small : nanosecond < nanosecondsPerSecond) :
    (places nanosecond).length ≤ 9 := by
  unfold places
  split_ifs with zero
  · exact Nat.zero_le 9
  · obtain ⟨count, same⟩ := Text.eq_append_zeros (Text.padLeft 9 (Text.decimal nanosecond))
    have length := congrArg List.length same
    rw [Text.length_padLeft (by decide) small, List.length_append] at length
    rw [Shortest.withoutTrailingZeros]
    omega

/-- Nine places hold a part of a second without loss. -/
theorem nanoseconds_places {nanosecond : Nat} (small : nanosecond < nanosecondsPerSecond) :
    nanoseconds (places nanosecond) = nanosecond := by
  have same := nanoseconds_eq_fraction (places nanosecond)
  rw [List.take_of_length_le (length_places small),
    fraction_places (Text.length_padLeft (by decide) small), div_mul_cancel₀ _ (by positivity)] at same
  exact Nat.cast_injective same

/-- A timestamp is shown as its date, its clock and its part of a second. -/
theorem text_eq (timestamp : Timestamp) : timestamp.text =
    Date.yearText timestamp.date.year ++ '-' :: (Text.padLeft 2 (Text.decimal timestamp.date.month) ++
      '-' :: (Text.padLeft 2 (Text.decimal timestamp.date.day) ++
      'T' :: (Text.padLeft 2 (Text.decimal (timestamp.minute / 60)) ++
      ':' :: (Text.padLeft 2 (Text.decimal (timestamp.minute % 60)) ++
      ':' :: (Text.padLeft 2
        (Text.decimal (timestamp.second + timestamp.nanosecond / nanosecondsPerSecond)) ++
      (fractionText timestamp.nanosecond ++ ['Z'])))))) := by
  simp [text, Date.text]

/-- The digits behind the point of a timestamp are those of its part of a second. -/
theorem fractionDigits_text (timestamp : Timestamp) :
    fractionDigits timestamp.text = places timestamp.nanosecond := by
  have pads (width value : Nat) : '.' ∉ Text.padLeft width (Text.decimal value) :=
    not_mem_of_isDigit (Text.padLeft_isDigit width value) rfl
  have year : '.' ∉ Date.yearText timestamp.date.year := by
    unfold Date.yearText
    dsimp only
    split_ifs <;> simp [pads]
  have reaches : ReachesPoint timestamp.text (fractionText timestamp.nanosecond ++ ['Z']) := by
    rw [text_eq]
    -- One step for each part of the clock and the mark behind it, up to the seconds.
    refine (ReachesPoint.part year (by decide) _).trans ?_
    refine (ReachesPoint.part (pads _ _) (by decide) _).trans ?_
    refine (ReachesPoint.part (pads _ _) (by decide) _).trans ?_
    refine (ReachesPoint.part (pads _ _) (by decide) _).trans ?_
    refine (ReachesPoint.part (pads _ _) (by decide) _).trans ?_
    exact ⟨_, rfl, pads _ _⟩
  rw [reaches.fractionDigits_eq,
    (fractionText_form timestamp.nanosecond).fractionDigits_eq (.cons (by decide) [])]

/-- The point that is shown is read again unless it is within a leap second. -/
theorem read?_text {timestamp : Timestamp} (point : timestamp.IsPoint)
    (plain : timestamp.nanosecond < nanosecondsPerSecond) (least : 0 ≤ timestamp.date.year)
    (greatest : timestamp.date.year ≤ 9999) : read? timestamp.text = some timestamp := by
  obtain ⟨date, minute, second, nanosecond⟩ := timestamp
  obtain ⟨year, month, day⟩ := date
  obtain ⟨valid, inDay, inMinute, _⟩ := point
  dsimp only at *
  obtain ⟨⟨_, months⟩, _, days⟩ := Date.isValid_iff.mp valid
  have daysInMonth := Date.daysInMonth_le year month
  dsimp only at months days
  have inHour : minute / 60 < 24 := by unfold minutesPerDay at inDay; omega
  have yearText : Date.yearText year = Text.padLeft 4 (Text.decimal year.natAbs) := by
    rw [Date.yearText, if_neg (by omega), if_neg (by omega)]
  have sameYear : ((year.natAbs : Nat) : Int) = year := Int.natAbs_of_nonneg least
  have fraction : fraction? (fractionText nanosecond ++ ['Z']) = some (nanosecond, ['Z']) :=
    fraction?_eq_some_iff.mpr ⟨_, fractionText_form nanosecond, (nanoseconds_places plain).symm⟩
  have offset : offset? ['Z'] = some (0, []) := rfl
  have clock : minute / 60 * 60 + minute % 60 = minute := Nat.div_add_mod' minute 60
  rw [text_eq, yearText]
  dsimp only
  rw [Nat.div_eq_of_lt plain, Nat.add_zero]
  have mark (letter : Char) (rest : Text) : Text.after? [letter] (letter :: rest) = some rest :=
    after?_eq_some_iff.mpr rfl
  have twoDigits {value : Nat} (small : value < 100) (rest : Text) :
      exactly? 2 (Text.padLeft 2 (Text.decimal value) ++ rest) = some (value, rest) :=
    exactly?_padLeft (by decide) small rest
  -- Each part of the clock has a fixed width, so the reader takes what was written for it and no more.
  unfold read?
  refine Option.bind_eq_some_iff.mpr
    ⟨_, exactly?_padLeft (by decide) (show year.natAbs < 10 ^ 4 by omega) _, ?_⟩
  refine Option.bind_eq_some_iff.mpr ⟨_, mark _ _, ?_⟩
  refine Option.bind_eq_some_iff.mpr ⟨_, twoDigits (show month < 100 by omega) _, ?_⟩
  refine Option.bind_eq_some_iff.mpr ⟨_, mark _ _, ?_⟩
  refine Option.bind_eq_some_iff.mpr ⟨_, twoDigits (show day < 100 by omega) _, ?_⟩
  refine Option.bind_eq_some_iff.mpr ⟨_, twoDigits (show minute / 60 < 100 by omega) _, ?_⟩
  refine Option.bind_eq_some_iff.mpr ⟨_, mark _ _, ?_⟩
  refine Option.bind_eq_some_iff.mpr ⟨_, twoDigits (show minute % 60 < 100 by omega) _, ?_⟩
  refine Option.bind_eq_some_iff.mpr ⟨_, mark _ _, ?_⟩
  refine Option.bind_eq_some_iff.mpr ⟨_, twoDigits (show second < 100 by omega) _, ?_⟩
  refine Option.bind_eq_some_iff.mpr ⟨_, fraction, ?_⟩
  refine Option.bind_eq_some_iff.mpr ⟨_, offset, ?_⟩
  dsimp only
  rw [sameYear, valid, clock, min_eq_left inMinute, if_neg (show second ≠ 60 by omega), Nat.add_zero,
    setBack_zero inDay, if_neg]
  simp only [List.isEmpty_nil, Bool.not_true, Bool.or_self, Bool.false_or, Bool.or_eq_true,
    decide_eq_true_eq]
  omega

/-- A year with a sign is not read. -/
theorem read?_text_signed {timestamp : Timestamp}
    (signed : timestamp.date.year < 0 ∨ 9999 < timestamp.date.year) : read? timestamp.text = none := by
  have sign : ∃ sign rest, timestamp.text = sign :: rest ∧ Char.isDigit sign = false := by
    rw [text_eq, Date.yearText]
    split_ifs
    · exact ⟨'-', _, rfl, rfl⟩
    · exact ⟨'+', _, rfl, rfl⟩
    · omega
  obtain ⟨sign, rest, text, other⟩ := sign
  rw [text, Option.eq_none_iff_forall_ne_some]
  intro found read
  obtain ⟨⟨year, tail⟩, readYear, _⟩ := Option.bind_eq_some_iff.mp read
  obtain ⟨digits, whole, full, all, _⟩ := exactly?_eq_some_iff.mp readYear
  cases digits with
  | nil => cases full
  | cons digit digits =>
      rw [List.all_cons, Bool.and_eq_true, ← (List.cons_eq_cons.mp whole).1, other] at all
      cases all.1

end Timestamp

end ParamCodec
