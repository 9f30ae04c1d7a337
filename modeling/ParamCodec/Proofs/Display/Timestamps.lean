import ParamCodec.Display.Cell
import ParamCodec.Proofs.Calendar.Timestamps

namespace ParamCodec.Display

open Timestamp

/-- A timestamp is shown as a text that is shown as itself and names the same instant. The digits behind its
point, nine at most, are the part of a second that the source has in its first nine. -/
structure ShownAgain (source shown : Text) : Prop where
  same : value (.scalar .timestamp) (.string shown) = .ok shown
  instant : read? shown = read? source
  short : (fractionDigits shown).length ≤ 9
  part : Text.fraction (fractionDigits shown) = Text.fraction ((fractionDigits source).take 9)

/-- A timestamp is shown as the timestamp that its text is read as. -/
theorem timestamp_eq_ok_iff {source shown : Text} :
    value (.scalar .timestamp) (.string source) = .ok shown ↔
      ∃ timestamp, read? source = some timestamp ∧ timestamp.text = shown := by
  have stands : (Value.string source).isNull = false := rfl
  have text : scalar? .timestamp (.string source) = (read? source).map Timestamp.text := rfl
  rw [value, scalar, stands, text]
  cases read? source <;> simp

/-- The part of a second that is shown outside of leap seconds. -/
theorem fraction_shown {source : Text} {timestamp : Timestamp} (read : read? source = some timestamp)
    (plain : timestamp.nanosecond < nanosecondsPerSecond) :
    Text.fraction (fractionDigits timestamp.text) = Text.fraction ((fractionDigits source).take 9) := by
  have same : timestamp.nanosecond = nanoseconds (fractionDigits source) :=
    (read?_sound read).2.resolve_right (by omega)
  rw [fractionDigits_text, fraction_places (Text.length_padLeft (by decide) plain), same,
    nanoseconds_eq_fraction, mul_div_cancel_right₀ _ (by positivity)]

/-- Within a leap second the counter has ten digits, so another part of a second is shown. -/
theorem fraction_shown_leap {source : Text} {timestamp : Timestamp} (read : read? source = some timestamp)
    (leap : nanosecondsPerSecond ≤ timestamp.nanosecond) :
    Text.fraction (fractionDigits timestamp.text) ≠ Text.fraction ((fractionDigits source).take 9) := by
  have small := nanoseconds_lt (fractionDigits_isDigit source)
  obtain ⟨point, same⟩ := read?_sound read
  replace same := same.resolve_left (by omega)
  intro equal
  -- The counter is `n + 10 ^ 9` for the `n` nanoseconds of the source, and `n / 10 ^ 9` would have to be
  -- `(n + 10 ^ 9) / 10 ^ 10`; then `9 * n` is `10 ^ 9`, which is no multiple of nine.
  rw [fractionDigits_text, fraction_places (length_padLeft_leap leap point.nanosecond),
    ← mul_left_inj' (show (10 : ℚ) ^ 9 ≠ 0 by positivity), ← nanoseconds_eq_fraction, same] at equal
  have multiple : nanoseconds (fractionDigits source) + nanosecondsPerSecond =
      10 * nanoseconds (fractionDigits source) := by
    rw [← Nat.cast_inj (R := ℚ)]
    push_cast at equal ⊢
    linarith
  unfold nanosecondsPerSecond at multiple
  omega

/-- A shown timestamp is shown again as the same text for the same instant, unless it is in a leap second or
its year in UTC does not have four digits. -/
theorem timestamp_shownAgain_iff (source shown : Text)
    (shows : value (.scalar .timestamp) (.string source) = .ok shown) :
    ShownAgain source shown ↔ ∃ timestamp, read? source = some timestamp ∧
      timestamp.nanosecond < nanosecondsPerSecond ∧ 0 ≤ timestamp.date.year ∧ timestamp.date.year ≤ 9999 := by
  obtain ⟨timestamp, read, rfl⟩ := timestamp_eq_ok_iff.mp shows
  constructor
  · rintro ⟨_, instant, _, part⟩
    refine ⟨timestamp, read, ?_, ?_⟩
    · exact not_le.mp fun leap => fraction_shown_leap read leap part
    · by_contra signed
      rw [read?_text_signed (by omega), read] at instant
      cases instant
  · rintro ⟨found, again, plain, least, greatest⟩
    obtain rfl : timestamp = found := Option.some.inj (read.symm.trans again)
    have shownAgain := read?_text (read?_sound read).1 plain least greatest
    refine ⟨timestamp_eq_ok_iff.mpr ⟨timestamp, shownAgain, rfl⟩, shownAgain.trans read.symm, ?_,
      fraction_shown read plain⟩
    rw [fractionDigits_text]
    exact length_places plain

/-- The clock of another place may show the day before. -/
theorem timestamp_shownAgain_iff_nextDay :
    value (.scalar .timestamp) (.string "2024-02-29t23:30:00.120-01:00".toList) =
        .ok "2024-03-01T00:30:00.12Z".toList ∧
      ShownAgain "2024-02-29t23:30:00.120-01:00".toList "2024-03-01T00:30:00.12Z".toList := by
  have shows : value (.scalar .timestamp) (.string "2024-02-29t23:30:00.120-01:00".toList) =
      .ok "2024-03-01T00:30:00.12Z".toList :=
    timestamp_eq_ok_iff.mpr ⟨⟨⟨2024, 3, 1⟩, 30, 0, 120000000⟩, by decide +kernel, by decide +kernel⟩
  exact ⟨shows, (timestamp_shownAgain_iff _ _ shows).mpr
    ⟨⟨⟨2024, 3, 1⟩, 30, 0, 120000000⟩, by decide +kernel, by decide, by decide, by decide⟩⟩

/-- In a leap second a digit is shown that the source does not have, and one more each time it is shown. -/
theorem timestamp_leapSecond :
    value (.scalar .timestamp) (.string "2016-12-31T23:59:60.5Z".toList) =
        .ok "2016-12-31T23:59:60.15Z".toList ∧
      value (.scalar .timestamp) (.string "2016-12-31T23:59:60.15Z".toList) =
        .ok "2016-12-31T23:59:60.115Z".toList :=
  ⟨timestamp_eq_ok_iff.mpr
      ⟨⟨⟨2016, 12, 31⟩, 1439, 59, 1500000000⟩, by decide +kernel, by decide +kernel⟩,
    timestamp_eq_ok_iff.mpr
      ⟨⟨⟨2016, 12, 31⟩, 1439, 59, 1150000000⟩, by decide +kernel, by decide +kernel⟩⟩

end ParamCodec.Display
