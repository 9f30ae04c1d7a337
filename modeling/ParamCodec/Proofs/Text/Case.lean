import Mathlib
import ParamCodec.Source
import ParamCodec.Text.Blank

namespace ParamCodec

namespace Text

/-- What does not tell the letters `A` to `Z` from `a` to `z` does not see the case of letters. -/
theorem ignoresCase {α : Type} (view : Char → α)
    (same : ∀ place < 26, view (Char.ofNat (65 + place)) = view (Char.ofNat (97 + place)))
    (letter : Char) : view letter.toUpper = view letter := by
  by_cases lower : letter.isLower = true
  · have range : 97 ≤ letter.toNat ∧ letter.toNat ≤ 122 :=
      (Bool.and_eq_true_iff.mp lower).imp of_decide_eq_true of_decide_eq_true
    have upperPlace : letter.toNat - 32 = 65 + (letter.toNat - 97) := by omega
    rw [Char.toUpper_eq_of_isLower lower, upperPlace, same _ (by omega), Nat.add_sub_cancel' range.1,
      Char.ofNat_toNat]
  · rw [Char.toUpper_eq_of_not_isLower lower]

/-- A sign that is no lower case letter and has none is itself in upper case only. -/
theorem toUpper_eq_iff {mark : Char} (noLetter : mark.isAlpha = false) (letter : Char) :
    letter.toUpper = mark ↔ letter = mark := by
  by_cases lower : letter.isLower = true
  · have alpha : letter.isAlpha = true := by rw [Char.isAlpha, lower, Bool.or_true]
    constructor <;> rintro rfl
    · rw [Char.isAlpha_toUpper_eq_isAlpha, alpha] at noLetter
      cases noLetter
    · rw [alpha] at noLetter
      cases noLetter
  · rw [Char.toUpper_eq_of_not_isLower lower]

/-- Blanks are the same in either case. -/
theorem isBlank_toUpper (letter : Char) : isBlank letter.toUpper = isBlank letter :=
  ignoresCase _ (by decide) letter

/-- Digits are the same in either case. -/
theorem isDigit_toUpper (letter : Char) : letter.toUpper.isDigit = letter.isDigit :=
  ignoresCase _ (by decide) letter

theorem upper_cons (letter : Char) (text : Text) :
    upper (letter :: text) = letter.toUpper :: upper text := rfl

/-- A text in upper case stays as it is. -/
theorem upper_upper (text : Text) : upper (upper text) = upper text := by
  simp [upper]

@[simp] theorem isEmpty_upper (text : Text) : (upper text).isEmpty = text.isEmpty :=
  List.isEmpty_map

theorem length_upper (text : Text) : (upper text).length = text.length := List.length_map _

theorem upper_tail (text : Text) : upper text.tail = (upper text).tail := List.map_tail

theorem upper_take (count : Nat) (text : Text) : upper (text.take count) = (upper text).take count :=
  List.map_take

/-- A word is the same keyword in either case. -/
theorem sameWord_upper (word : Text) : sameWord (upper word) = sameWord word := by
  funext keyword
  rw [sameWord, sameWord, upper_upper]

section Runs

variable {kind : Char → Bool} (same : ∀ letter, kind letter.toUpper = kind letter) (text : Text)

include same

/-- A run of a kind that ignores case is as long in either case. -/
theorem takeWhile_upper : (upper text).takeWhile kind = upper (text.takeWhile kind) := by
  rw [upper, List.takeWhile_map, show kind ∘ Char.toUpper = kind from funext same]
  rfl

/-- What stands behind such a run is the same in either case. -/
theorem dropWhile_upper : (upper text).dropWhile kind = upper (text.dropWhile kind) := by
  rw [upper, List.dropWhile_map, show kind ∘ Char.toUpper = kind from funext same]
  rfl

end Runs

/-- A text takes as many bytes in either case. -/
theorem utf8Length_upper (text : Text) : utf8Length (upper text) = utf8Length text := by
  have size (letter : Char) : letter.toUpper.utf8Size = letter.utf8Size :=
    ignoresCase _ (by decide) letter
  simp only [utf8Length, upper, List.foldr_map, size]

end Text

namespace Location

/-- A line break has no case. -/
theorem isLineBreak_toUpper (letter : Char) :
    (letter.toUpper == '\n') = (letter == '\n') :=
  Text.ignoresCase (· == '\n') (by decide) letter

/-- Lines are counted alike in either case. -/
theorem lineAfter_upper (consumed : Text) : lineAfter (Text.upper consumed) = lineAfter consumed := by
  have lines : (· == '\n') ∘ Char.toUpper = (· == '\n') := funext isLineBreak_toUpper
  simp only [lineAfter, List.count_eq_countP, Text.upper, List.countP_map, lines]

/-- Columns are counted alike in either case. -/
theorem columnAfter_upper (consumed : Text) :
    columnAfter (Text.upper consumed) = columnAfter consumed := by
  have inLine (letter : Char) : decide (letter.toUpper ≠ '\n') = decide (letter ≠ '\n') :=
    Text.ignoresCase (fun letter => decide (letter ≠ '\n')) (by decide) letter
  rw [columnAfter, columnAfter, Text.upper, ← List.map_reverse]
  change 1 + ((Text.upper consumed.reverse).takeWhile _).length = _
  rw [Text.takeWhile_upper inLine, Text.length_upper]

/-- A place in a source does not depend on the case of the letters before it. -/
theorem after_upper (consumed : Text) : after (Text.upper consumed) = after consumed := by
  rw [after, after, lineAfter_upper, columnAfter_upper, Text.utf8Length_upper]

end Location

end ParamCodec
