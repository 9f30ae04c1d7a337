import ParamCodec.Proofs.Grammar.FailurePlace
import ParamCodec.Proofs.Source

namespace ParamCodec

namespace Location

/-- Columns count the code points behind the last line break. -/
theorem columnAfter_eq (before : Text) :
    ∃ lines last, before = lines ++ last ∧ (lines = [] ∨ ['\n'] <:+ lines) ∧ '\n' ∉ last ∧
      columnAfter before = 1 + last.length := by
  obtain ⟨run, ran⟩ : ∃ run, before.reverse.takeWhile (· ≠ '\n') = run := ⟨_, rfl⟩
  obtain ⟨left, stops⟩ : ∃ left, before.reverse.dropWhile (· ≠ '\n') = left := ⟨_, rfl⟩
  obtain ⟨whole, all, ends⟩ := Grammar.run_eq_iff.mp ⟨ran, stops⟩
  refine ⟨left.reverse, run.reverse, ?_, ?_, ?_, ?_⟩
  · rw [← List.reverse_append, ← whole, List.reverse_reverse]
  · cases left with
    | nil => exact .inl rfl
    | cons letter left =>
        have newline : letter = '\n' := by simpa using ends letter rfl
        rw [newline, List.reverse_cons]
        exact .inr (List.suffix_append _ _)
  · rw [List.mem_reverse]
    intro inside
    simpa using List.all_eq_true.mp all '\n' inside
  · rw [columnAfter, ran, List.length_reverse]

end Location

namespace Grammar

/-- The place between two parts of a source, and a message that ends with what stands there. -/
structure PointsBetween (before rest : Text) (location : Location) (message : Text) : Prop where
  offset : location.offset = (Bytes.ofText before).length
  line : location.line = 1 + before.count '\n'
  column : ∃ lines last, before = lines ++ last ∧ (lines = [] ∨ ['\n'] <:+ lines) ∧ '\n' ∉ last ∧
    location.column = 1 + last.length
  length : location.length = 0
  span : location = .ofSpan ⟨location.offset, location.offset⟩ (before ++ rest)
  atEnd : "found end of input".toList <:+ message ↔ rest = []
  shown : rest ≠ [] → "found \x60".toList ++ rest.take 12 ++ ['\x60'] <:+ message

/-- The message names the kind of fragment, the place, what was expected and what was found. -/
theorem message_malformed (kind : FragmentKind) (location : Location) (failure : Failure) :
    (Error.malformed kind location failure).message =
      "invalid ".toList ++ kind.name ++ " syntax at ".toList ++ location.text ++ ": ".toList ++
        (failure.expected.text ++ ", ".toList ++ Failure.found failure.rest) := rfl

/-- The message ends with what was found. -/
theorem found_suffix (kind : FragmentKind) (location : Location) (failure : Failure) :
    Failure.found failure.rest <:+ (Error.malformed kind location failure).message := by
  rw [message_malformed, ← List.append_assoc]
  exact List.suffix_append _ _

theorem found_nil : Failure.found [] = "found end of input".toList := rfl

/-- The first twelve letters that stand at the place are shown between backquotes. -/
theorem found_of_stands {rest : Text} (stands : rest ≠ []) :
    Failure.found rest = "found \x60".toList ++ rest.take 12 ++ ['\x60'] := by
  have noEnd : ¬ rest.isEmpty = true := fun empty => stands (List.isEmpty_iff.mp empty)
  rw [Failure.found, if_neg noEnd, Failure.shownLength]

/-- A text ends with the end of input or with a backquote, not with both. -/
theorem not_both_found {rest message : Text} (stands : rest ≠ [])
    (shown : Failure.found rest <:+ message) : ¬ "found end of input".toList <:+ message := by
  rintro ⟨first, same⟩
  obtain ⟨second, rfl⟩ := shown
  have last := congrArg List.getLast? same
  rw [found_of_stands stands, ← List.append_assoc, List.getLast?_concat, List.getLast?_append] at last
  cases last

/-- The error is one of the grammar, at a place between two parts of the source. -/
def PointsInto (kind : FragmentKind) (source : Text) (error : Error) : Prop :=
  ∃ location failure before rest, error = .malformed kind location failure ∧
    source = before ++ rest ∧ PointsBetween before rest location error.message

/-- A failure at an end of the source is located between what was read and that end. -/
theorem located_pointsInto (kind : FragmentKind) {source : Text} {failure : Failure}
    (inside : failure.rest <:+ source) : PointsInto kind source (located kind source failure) := by
  obtain ⟨before, rfl⟩ := inside
  have taken : (before ++ failure.rest).take ((before ++ failure.rest).length - failure.rest.length) =
      before := by simp
  have shown := found_suffix kind (.after before) failure
  rw [located, taken]
  refine ⟨.after before, failure, before, failure.rest, rfl, rfl, Text.utf8Length_eq before, rfl,
    Location.columnAfter_eq before, rfl, Location.after_eq_ofSpan before _, ⟨?_, ?_⟩, ?_⟩
  · intro ended
    by_contra stands
    exact not_both_found stands shown ended
  · intro empty
    rwa [empty, found_nil] at shown
  · intro stands
    rwa [found_of_stands stands] at shown

end Grammar

/-- Every refused fragment is refused between two parts of its source, with the line, the column and
the byte offset of that place, and with what stands behind it. -/
theorem parse_error_pointsInto (source : Text) (error : Error) :
    (parseType source = .error error → Grammar.PointsInto .type source error) ∧
    (parseExpression source = .error error → Grammar.PointsInto .literal source error) := by
  constructor
  · intro refused
    obtain ⟨failure, failed, rfl⟩ := Grammar.mapError_eq_error_iff.mp refused
    exact Grammar.located_pointsInto .type (Grammar.type_failsWithin failed)
  · intro refused
    obtain ⟨failure, failed, rfl⟩ := Grammar.mapError_eq_error_iff.mp refused
    exact Grammar.located_pointsInto .literal (Grammar.expression_failsWithin failed)

/-- The second lines of these sources start behind letters of more than one byte. -/
theorem parse_error_pointsInto_secondLine :
    (parseType "STRUCT<\x60é\x60,\n 1".toList =
        .error (.malformed .type ⟨2, 2, 14, 0⟩ ⟨.identifier, "1".toList⟩) ∧
      Grammar.PointsInto .type "STRUCT<\x60é\x60,\n 1".toList
        (.malformed .type ⟨2, 2, 14, 0⟩ ⟨.identifier, "1".toList⟩)) ∧
    (parseExpression "['é',\n /* 1".toList =
        .error (.malformed .literal ⟨2, 2, 8, 0⟩ ⟨.endOfComment, "/* 1".toList⟩) ∧
      Grammar.PointsInto .literal "['é',\n /* 1".toList
        (.malformed .literal ⟨2, 2, 8, 0⟩ ⟨.endOfComment, "/* 1".toList⟩)) := by
  have noType : parseType "STRUCT<\x60é\x60,\n 1".toList =
      .error (.malformed .type ⟨2, 2, 14, 0⟩ ⟨.identifier, "1".toList⟩) :=
    Grammar.eq_error_of_match (by decide +kernel)
  have noLiteral : parseExpression "['é',\n /* 1".toList =
      .error (.malformed .literal ⟨2, 2, 8, 0⟩ ⟨.endOfComment, "/* 1".toList⟩) :=
    Grammar.eq_error_of_match (by decide +kernel)
  exact ⟨⟨noType, (parse_error_pointsInto _ _).1 noType⟩,
    noLiteral, (parse_error_pointsInto _ _).2 noLiteral⟩

end ParamCodec
