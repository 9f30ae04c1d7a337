import Mathlib.Tactic
import ParamCodec.Bytes.Utf8
import ParamCodec.Source

namespace ParamCodec

namespace Text

theorem utf8Length_cons (letter : Char) (text : Text) :
    utf8Length (letter :: text) = letter.utf8Size + utf8Length text := rfl

/-- The length of a text in UTF-8 is the number of its bytes. -/
theorem utf8Length_eq (text : Text) : utf8Length text = (Bytes.ofText text).length := by
  induction text with
  | nil => rfl
  | cons letter text ih =>
      have bytes : Bytes.ofText (letter :: text) = Bytes.ofChar letter ++ Bytes.ofText text := rfl
      rw [utf8Length_cons, ih, bytes, List.length_append, Bytes.ofChar, String.length_utf8EncodeChar]

end Text

namespace Location

/-- The code points before the end of a beginning are those of the beginning. -/
theorem startingBefore_append (before rest : Text) :
    startingBefore (Text.utf8Length before) (before ++ rest) = before := by
  induction before with
  | nil => cases rest <;> rfl
  | cons letter before ih =>
      obtain ⟨size, same⟩ := Nat.exists_eq_add_one.mpr letter.utf8Size_pos
      have length : Text.utf8Length (letter :: before) = size + Text.utf8Length before + 1 := by
        rw [Text.utf8Length_cons, same, Nat.add_right_comm]
      have left : size + Text.utf8Length before + 1 - letter.utf8Size = Text.utf8Length before := by
        omega
      rw [length, List.cons_append, startingBefore, left, ih]

/-- The point behind a beginning is the empty span at its end. -/
theorem after_eq_ofSpan (before rest : Text) :
    after before = ofSpan ⟨Text.utf8Length before, Text.utf8Length before⟩ (before ++ rest) := by
  rw [ofSpan, startingBefore_append, after, Span.length, Nat.sub_self]

/-- A line break starts the next line. -/
theorem lineAfter_newline (consumed : Text) : lineAfter (consumed ++ ['\n']) = lineAfter consumed + 1 := by
  rw [lineAfter, lineAfter, List.count_append, List.count_singleton_self, Nat.add_assoc]

/-- Every other code point stays on its line. -/
theorem lineAfter_other (consumed : Text) {letter : Char} (other : letter ≠ '\n') :
    lineAfter (consumed ++ [letter]) = lineAfter consumed := by
  rw [lineAfter, lineAfter, List.count_append, List.count_singleton, if_neg (by simpa using other),
    Nat.add_zero]

/-- A line starts with its first column. -/
theorem columnAfter_newline (consumed : Text) : columnAfter (consumed ++ ['\n']) = 1 := by
  rw [columnAfter, List.reverse_append, List.reverse_singleton, List.singleton_append,
    List.takeWhile_cons_of_neg (by decide), List.length_nil]

/-- Every other code point is one column wide. -/
theorem columnAfter_other (consumed : Text) {letter : Char} (other : letter ≠ '\n') :
    columnAfter (consumed ++ [letter]) = columnAfter consumed + 1 := by
  rw [columnAfter, columnAfter, List.reverse_append, List.reverse_singleton, List.singleton_append,
    List.takeWhile_cons_of_pos (by simpa using other), List.length_cons, Nat.add_assoc]

/-- A code point that starts before the offset counts, and those behind it start later by its size. -/
theorem startingBefore_cons {offset start : Nat} (before : start < offset) (letter : Char)
    (source : Text) :
    startingBefore (offset - start) (letter :: source) =
      letter :: startingBefore (offset - (start + letter.utf8Size)) source := by
  obtain ⟨left, same⟩ := Nat.exists_eq_add_one.mpr (Nat.sub_pos_of_lt before)
  rw [Nat.sub_add_eq, same, startingBefore]

/-- The count that stands behind a beginning ends behind the code points that start before the
offset. -/
theorem countFrom_eq (offset start : Nat) (consumed source : Text) :
    countFrom offset start (lineAfter consumed) (columnAfter consumed) source =
      (lineAfter (consumed ++ startingBefore (offset - start) source),
        columnAfter (consumed ++ startingBefore (offset - start) source)) := by
  induction source generalizing start consumed with
  | nil =>
      have none : startingBefore (offset - start) [] = [] := by cases offset - start <;> rfl
      rw [countFrom, none, List.append_nil]
  | cons letter source ih =>
      rcases Nat.lt_or_ge start offset with before | behind
      · -- The beginning grows by this code point, and the count moves with it.
        rw [startingBefore_cons before, List.append_cons, ← ih, countFrom,
          if_neg (Nat.not_le.mpr before)]
        by_cases newline : letter = '\n'
        · rw [if_pos newline, newline, lineAfter_newline, columnAfter_newline]
        · rw [if_neg newline, lineAfter_other consumed newline, columnAfter_other consumed newline]
      · rw [countFrom, if_pos behind, Nat.sub_eq_zero_of_le behind, startingBefore, List.append_nil]

/-- Counting lines and columns gives those behind the code points that start before the offset. -/
theorem lineColumn_eq (offset : Nat) (source : Text) :
    lineColumn offset source =
      (lineAfter (startingBefore offset source), columnAfter (startingBefore offset source)) :=
  countFrom_eq offset 0 [] source

/-- The place of a span has the line and the column that are counted to its start. -/
theorem lineColumn_ofSpan (span : Span) (source : Text) :
    lineColumn span.start source = ((ofSpan span source).line, (ofSpan span source).column) :=
  lineColumn_eq span.start source

/-- The point behind a beginning has the line and the column that are counted to its end. -/
theorem lineColumn_after (before rest : Text) :
    lineColumn (Text.utf8Length before) (before ++ rest) =
      ((after before).line, (after before).column) := by
  rw [lineColumn_eq, startingBefore_append]
  rfl

end Location

end ParamCodec
