import ParamCodec.Proofs.Grammar.ExpressionTexts
import ParamCodec.Proofs.Grammar.Whole

namespace ParamCodec

namespace Grammar

/-- A source with a line break behind it, which ends a comment that is still open. -/
def closedLine (source : Text) : Text := source ++ ['\n']

/-- The sources with commas between them, each closed by a line break. -/
def closedLines (sources : List Text) : Text := List.intercalate [','] (sources.map closedLine)

/-- A source closed by a line break, with its alias. -/
def argumentLine (line : Text × Option Identifier) : Text :=
  closedLine line.1 ++ Expression.labelText line.2

/-- A line break ends what stands in front of it. -/
theorem breaks_newline (more : Text) : Breaks ('\n' :: more) := by
  intro letter found
  cases found
  decide

/-- The line break of a closed line stands in front of what follows. -/
theorem closedLine_append (source more : Text) : closedLine source ++ more = source ++ '\n' :: more := by
  rw [closedLine, List.append_assoc]
  rfl

/-- What is read as a whole is read in front of everything that it stops at. -/
theorem embeds_closedLine {α : Type} {reader : Reader α} (extendsTo : Extends reader reader)
    {source : Text} {value : α} (read : whole reader source = .ok value) :
    Embeds StopsFragment reader (closedLine source) value := by
  obtain ⟨rest, first, skipped⟩ := whole_eq_ok_iff.mp read
  intro more stops
  have continues : Continues rest ('\n' :: more) := by
    refine ⟨breaks_newline more, fun _ => ?_⟩
    rw [skipTrivia_append_newline more skipped]
    exact stops.stops
  refine ⟨rest ++ '\n' :: more, ?_, skipTrivia_append_newline more skipped⟩
  rw [closedLine_append]
  exact extendsTo _ _ _ first _ continues

/-- Expressions that are read on their own are read as items. -/
theorem embeds_closedLines {sources : List Text} {expressions : List Expression}
    (reads : List.Forall₂ (fun source value => parseExpression source = .ok value) sources expressions) :
    List.Forall₂ (Embeds StopsItem expression) (sources.map closedLine) expressions := by
  induction reads with
  | nil => exact .nil
  | cons first _ ih =>
      have embeds := embeds_closedLine expression_extends (parseExpression_eq_ok_iff.mp first)
      exact .cons (embeds.mono fun _ stops => stops.stopsFragment) ih

/-- The line of an argument: its source on its own is the expression, and its alias is a name. -/
def ReadsArgument (line : Text × Option Identifier) (argument : Argument Expression) : Prop :=
  parseExpression line.1 = .ok argument.expression ∧ argument.label = line.2 ∧
    ∀ name ∈ line.2, Identifier.isValid name = true

/-- Lines whose sources parse on their own embed the arguments that they are the lines of. -/
theorem embeds_argumentLines {lines : List (Text × Option Identifier)}
    {arguments : List (Argument Expression)} (reads : List.Forall₂ ReadsArgument lines arguments) :
    List.Forall₂ (Embeds StopsItem (argument expression)) (lines.map argumentLine) arguments := by
  induction reads with
  | nil => exact .nil
  | @cons line argument _ _ first _ ih =>
      obtain ⟨read, same, valid⟩ := first
      have embeds := embeds_closedLine expression_extends (parseExpression_eq_ok_iff.mp read)
      have whole := embeds_argument valid embeds
      rw [← same] at whole
      exact .cons (by rwa [argumentLine, ← same]) ih

/-- A blank is a break, since words, numbers, strings and comment marks hold none. -/
theorem isBreak_of_isBlank {letter : Char} (blank : Text.isBlank letter = true) :
    isBreak letter = true := by
  have noPart : Identifier.isWordPart letter = false := by
    refine Bool.eq_false_iff.mpr fun part => ?_
    have solid := isWordPart_solid part
    rw [blank, Bool.true_or] at solid
    cases solid
  have noMark : ['.', '-', '*', '\x27', '\x22'].contains letter = false := by
    refine Bool.eq_false_iff.mpr fun mark => ?_
    have noBlank : Text.isBlank letter = false :=
      none_of_mem (List.contains_iff_mem.mp mark) (by decide)
    rw [noBlank] at blank
    cases blank
  rw [isBreak, noPart, noMark]
  rfl

/-- Items stop in front of blanks and a closing parenthesis. -/
theorem stopsItem_blanks {gap : Text} (blank : gap.all Text.isBlank = true) (more : Text) :
    StopsItem (gap ++ ')' :: more) ∧ skipTrivia (gap ++ ')' :: more) = .ok (')' :: more) := by
  have ends : EndsItem (')' :: more) := endsItem_cons more (by decide)
  induction gap with
  | nil => exact ⟨ends.stopsItem, ends.skipTrivia⟩
  | cons letter gap ih =>
      rw [List.all_cons, Bool.and_eq_true] at blank
      have skipped := (skip_blank (gap ++ ')' :: more) blank.1).trans (ih blank.2).2
      refine ⟨⟨?_, _, skipped, ends⟩, skipped⟩
      intro found same
      cases same
      exact isBreak_of_isBlank blank.1

end Grammar

open Grammar

/-- A source that an expression takes whole parses to that expression. -/
theorem parseExpression_eq_ok {source : Text} {value : Expression}
    (read : expression source = .ok (value, [])) : parseExpression source = .ok value :=
  parseExpression_eq_ok_iff.mpr (whole_eq_ok_iff.mpr ⟨[], read, rfl⟩)

/-- A source that a type takes whole parses to that type. -/
theorem parseType_eq_ok {source : Text} {fragment : TypeFragment}
    (read : type source = .ok (fragment, [])) : parseType source = .ok fragment :=
  parseType_eq_ok_iff.mpr (whole_eq_ok_iff.mpr ⟨[], read, rfl⟩)

/-- Fragments that are read on their own are read alike inside the composites. -/
theorem parse_composites :
    (∀ sources expressions,
      List.Forall₂ (fun source value => parseExpression source = .ok value) sources expressions →
        parseExpression ('[' :: closedLines sources ++ [']']) = .ok (.array none expressions) ∧
        (2 ≤ sources.length →
          parseExpression ('(' :: closedLines sources ++ [')']) = .ok (.tuple expressions))) ∧
    (∀ lines arguments, List.Forall₂ ReadsArgument lines arguments →
      ∀ gap : Text, gap.all Text.isBlank = true →
        parseExpression ("STRUCT(".toList ++ List.intercalate [','] (lines.map argumentLine) ++
          (gap ++ [')'])) = .ok (.typeless arguments)) ∧
    (∀ source value, parseExpression source = .ok value →
      parseExpression ('(' :: closedLine source ++ [')']) = .ok (.parenthesized value)) ∧
    (∀ source fragment, parseType source = .ok fragment →
      parseType ("ARRAY<".toList ++ closedLine source ++ ['>']) = .ok (.array (some fragment)) ∧
      (∀ name : Identifier, name.namesField = true →
        parseType ("STRUCT<".toList ++ (name.sql ++ ' ' :: closedLine source) ++ ['>']) =
          .ok (.struct [⟨some name, some fragment⟩])) ∧
      (fragment.standsAlone = true →
        parseType ("STRUCT<".toList ++ closedLine source ++ ['>']) =
          .ok (.struct [⟨none, some fragment⟩]))) := by
  refine ⟨?_, ?_, ?_, ?_⟩
  · intro sources expressions reads
    have embeds := embeds_closedLines reads
    constructor
    · exact parseExpression_eq_ok (expression_arrayText (fun _ => rfl) embeds)
    · intro several
      rw [reads.length_eq] at several
      exact parseExpression_eq_ok (expression_tupleText (fun _ => rfl) embeds several)
  · intro lines arguments reads gap blank
    obtain ⟨endingEnds, closes⟩ := stopsItem_blanks blank []
    apply parseExpression_eq_ok
    exact expression_typelessText (fun _ => rfl) (embeds_argumentLines reads) endingEnds closes
  · intro source value read
    have embeds := embeds_closedLine expression_extends (parseExpression_eq_ok_iff.mp read)
    apply parseExpression_eq_ok
    exact expression_parenthesesText (embeds.mono fun _ stops => stops.stopsFragment)
  · intro source fragment read
    have whole := embeds_closedLine type_extends (parseType_eq_ok_iff.mp read)
    have embeds : Embeds EndsItem type (closedLine source) fragment :=
      whole.mono fun _ ends => ends.stopsItem.stopsFragment
    -- Fields of both kinds make up a struct of one field.
    have single {text : Text} {field : FieldFragment TypeFragment}
        (member : Embeds EndsItem (structField type) text field) :
        parseType ("STRUCT<".toList ++ text ++ ['>']) = .ok (.struct [field]) := by
      have blank (source : Text) : structField type ([] ++ source) = structField type source := rfl
      have read := type_structText blank (.cons member .nil) []
      rw [List.intercalate_singleton] at read
      exact parseType_eq_ok read
    refine ⟨parseType_eq_ok (type_arrayText embeds []), ?_, ?_⟩
    · intro name free
      exact single (embeds_namedField free embeds)
    · intro alone
      exact single (embeds_positionalField alone embeds)

/-- The comment of an argument does not reach its alias, and the fragment of a field its bracket. -/
theorem parse_composites_openComments :
    parseExpression ("STRUCT(".toList ++ "1 -- one\n AS a,'x'#\n".toList ++ ")".toList) =
        .ok (.typeless [⟨.literal (.integer "1".toList 10), some ⟨"a".toList, false⟩⟩,
          ⟨.literal (.string "x".toList), none⟩]) ∧
      parseExpression "(1 -- one\n,'x'#\n)".toList =
        .ok (.tuple [.literal (.integer "1".toList 10), .literal (.string "x".toList)]) ∧
      parseExpression "('x'#\n)".toList = .ok (.parenthesized (.literal (.string "x".toList))) ∧
      parseType "STRUCT<date INT64 --\n>".toList =
        .ok (.struct [⟨some ⟨"date".toList, false⟩, some (.named ⟨"INT64".toList, false⟩ none)⟩]) ∧
      parseType "STRUCT<INT64 --\n>".toList =
        .ok (.struct [⟨none, some (.named ⟨"INT64".toList, false⟩ none)⟩]) := by
  have one : parseExpression "1 -- one".toList = .ok (.literal (.integer "1".toList 10)) :=
    eq_ok_of_toOption (by decide +kernel)
  have text : parseExpression "'x'#".toList = .ok (.literal (.string "x".toList)) :=
    eq_ok_of_toOption (by decide +kernel)
  have scalar : parseType "INT64 --".toList = .ok (.named ⟨"INT64".toList, false⟩ none) :=
    eq_ok_of_toOption (by decide +kernel)
  obtain ⟨lists, arguments, single, types⟩ := parse_composites
  refine ⟨?_, ?_, ?_, ?_, ?_⟩
  · exact arguments [("1 -- one".toList, some ⟨"a".toList, false⟩), ("'x'#".toList, none)] _
      (.cons ⟨one, rfl, by simp; decide⟩ (.cons ⟨text, rfl, by simp⟩ .nil)) [] rfl
  · exact (lists ["1 -- one".toList, "'x'#".toList] _ (.cons one (.cons text .nil))).2 (by decide)
  · exact single "'x'#".toList _ text
  · exact (types "INT64 --".toList _ scalar).2.1 ⟨"date".toList, false⟩ (by decide)
  · exact (types "INT64 --".toList _ scalar).2.2 (by decide)

end ParamCodec
