import ParamCodec.Proofs.Grammar.ExpressionTexts
import ParamCodec.Proofs.Grammar.QuotedTexts
import ParamCodec.Proofs.Grammar.Whole

namespace ParamCodec

namespace Literal

theorem sql_null : null.sql = "NULL".toList := sql.eq_def _

theorem sql_boolean (value : Bool) :
    (boolean value).sql = (if value then "TRUE" else "FALSE").toList := sql.eq_def _

theorem sql_string (text : Text) : (string text).sql = quotedText text := sql.eq_def _

theorem sql_bytes (content : List UInt8) :
    (bytes content).sql = 'b' :: '\x22' :: content.flatMap escapedByte ++ ['\x22'] := sql.eq_def _

theorem sql_date (text : Text) : (date text).sql = "DATE ".toList ++ quotedText text := sql.eq_def _

theorem sql_timestamp (text : Text) :
    (timestamp text).sql = "TIMESTAMP ".toList ++ quotedText text := sql.eq_def _

theorem sql_numeric (text : Text) :
    (numeric text).sql = "NUMERIC ".toList ++ quotedText text := sql.eq_def _

theorem sql_json (text : Text) : (json text).sql = "JSON ".toList ++ quotedText text := sql.eq_def _

end Literal

namespace Expression

theorem sql_literal (value : Literal) : (literal value).sql = value.sql := sql.eq_def _

theorem annotationText_none : annotationText none = [] := rfl

theorem annotationText_some (element : TypeFragment) :
    annotationText (some element) = "ARRAY<".toList ++ element.sql ++ ['>'] := rfl

theorem sql_array (element : Option TypeFragment) (items : List Expression) :
    (array element items).sql =
      annotationText element ++ '[' :: Text.commaSeparated (texts items) ++ [']'] := sql.eq_def _

theorem sql_typeless (arguments : List (Argument Expression)) :
    (typeless arguments).sql =
      "STRUCT(".toList ++ Text.commaSeparated (argumentTexts arguments) ++ [')'] := sql.eq_def _

theorem sql_tuple (values : List Expression) :
    (tuple values).sql = '(' :: Text.commaSeparated (texts values) ++ [')'] := sql.eq_def _

theorem sql_typed (fields : List (FieldFragment TypeFragment)) (values : List Expression) :
    (typed fields values).sql = "STRUCT<".toList ++
      Text.commaSeparated (TypeFragment.fieldTexts fields) ++ ">(".toList ++
        Text.commaSeparated (texts values) ++ [')'] := sql.eq_def _

theorem sql_parenthesized (inner : Expression) :
    (parenthesized inner).sql = '(' :: inner.sql ++ [')'] := sql.eq_def _

theorem sql_path (segments : List Identifier) : (path segments).sql = pathText segments := sql.eq_def _

theorem sql_parameter (name : Identifier) : (parameter name).sql = '@' :: name.sql := sql.eq_def _

/-- Every segment of a path after the first has a point in front. -/
theorem pathText_cons (name : Identifier) (segments : List Identifier) :
    pathText (name :: segments) = name.sql ++ segments.flatMap fun segment => '.' :: segment.sql := by
  induction segments generalizing name with
  | nil => simp [pathText]
  | cons segment segments ih =>
      have rest := ih segment
      rw [pathText, List.map_cons] at rest
      rw [pathText, List.map_cons, List.map_cons, List.intercalate_cons_cons, rest]
      simp

end Expression

namespace Grammar

/-- A word is no literal unless a quote stands right behind it. -/
theorem startsLiteral_word {name tail : Text} (isName : isWord name = true)
    (ends : EndsRun Identifier.isWordPart tail)
    (noQuote : EndsRun ['\x27', '\x22'].contains tail) :
    Quoted.startsLiteral (name ++ tail) = false := by
  refine Bool.eq_false_iff.mpr fun starts => ?_
  obtain ⟨raw, bytes, taken, mark, form, isMark, rest, whole⟩ := Quoted.startsLiteral_iff.mp starts
  have noPart := Quoted.isWordPart_of_mark isMark
  have split := run_eq_iff.mpr ⟨rfl, isWordPart_of_isWord isName, ends⟩
  rw [List.append_assoc] at whole
  have other := run_eq_iff.mpr ⟨whole.symm, form.isWordPart, endsRun_cons rest noPart⟩
  obtain rfl : tail = mark :: rest := split.2.symm.trans other.2
  have stops : ['\x27', '\x22'].contains mark = false := noQuote mark rfl
  rw [List.contains_iff_mem.mpr isMark] at stops
  cases stops

/-- A break is no quote. -/
theorem breaks_noQuote {more : Text} (breaks : Breaks more) :
    EndsRun ['\x27', '\x22'].contains more := by
  intro letter found
  refine Bool.eq_false_iff.mpr fun isQuote => ?_
  have ends := breaks letter found
  rw [Quoted.isBreak_of_mark (List.contains_iff_mem.mp isQuote)] at ends
  cases ends

/-- What follows the first segment of a path. -/
def segmentsText (segments : List Identifier) : Text :=
  segments.flatMap fun segment => '.' :: segment.sql

/-- Segments start with their point, so they end a run that what follows them ends. -/
theorem segmentsText_endsRun {kind : Char → Bool} (segments : List Identifier) {more : Text}
    (noPoint : kind '.' = false) (ends : EndsRun kind more) :
    EndsRun kind (segmentsText segments ++ more) := by
  cases segments with
  | nil => exact ends
  | cons segment segments => exact endsRun_cons _ noPoint

theorem isWordPart_point : Identifier.isWordPart '.' = false := by decide

/-- The segments of a path are read from their text. -/
theorem segmentsForm_text {segments : List Identifier}
    (valid : ∀ segment ∈ segments, segment.isValid = true) {more : Text} (stops : StopsFragment more) :
    SegmentsForm (segmentsText segments ++ more) segments more := by
  induction segments with
  | nil =>
      obtain ⟨start, skipped, ends⟩ := stops.stops
      exact .done skipped (ends.noMark '.' (by decide))
  | cons segment segments ih =>
      rw [List.forall_mem_cons] at valid
      have whole : segmentsText (segment :: segments) ++ more =
          '.' :: (segment.sql ++ (segmentsText segments ++ more)) := by
        simp [segmentsText]
      have ends := segmentsText_endsRun segments isWordPart_point (breaks_endsRun stops.breaks)
      rw [whole]
      apply SegmentsForm.more (skipTrivia_solid _ (by decide)) (skipTrivia_name valid.1 _) _
        (ih valid.2)
      exact identifier_eq_ok_iff.mpr ⟨rfl, valid.1, fun _ => ends⟩

/-- The segments that are read are valid names. -/
theorem SegmentsForm.isValid {source rest : Text} {segments : List Identifier}
    (form : SegmentsForm source segments rest) : ∀ segment ∈ segments, segment.isValid = true := by
  induction form with
  | done _ _ => simp
  | more _ _ read _ ih =>
      rw [List.forall_mem_cons]
      exact ⟨(identifier_eq_ok_iff.mp read).2.1, ih⟩

/-- A path whose first segment is not reserved is read from its own text. -/
theorem embeds_pathText {name : Identifier} {segments : List Identifier}
    (valid : ∀ segment ∈ name :: segments, segment.isValid = true)
    (free : name.quoted = false → isReserved name.name = false) :
    Embeds StopsFragment expression (Expression.pathText (name :: segments))
      (.path (name :: segments)) := by
  intro more stops
  rw [List.forall_mem_cons] at valid
  have ends := segmentsText_endsRun segments isWordPart_point (breaks_endsRun stops.breaks)
  have noQuote := segmentsText_endsRun segments (by decide) (breaks_noQuote stops.breaks)
  have first : identifier (name.sql ++ (segmentsText segments ++ more)) =
      .ok (name, segmentsText segments ++ more) :=
    identifier_eq_ok_iff.mpr ⟨rfl, valid.1, fun _ => ends⟩
  have others := segmentsForm_text valid.2 stops
  refine ⟨more, ?_, rfl⟩
  rw [Expression.pathText_cons, List.append_assoc]
  apply expression_eq_ok_iff.mpr
  refine ⟨_, skipTrivia_name valid.1 _, ?_⟩
  cases quoted : name.quoted with
  | true => exact .path first quoted others
  | false =>
      obtain ⟨name, _⟩ := name
      cases quoted
      have isName : isWord name = true := valid.1
      refine .word (startsLiteral_word isName ends noQuote) ?_
      -- The first word could be a tag; then no string may stand behind it.
      apply WordForm.path (word_of_identifier first rfl) (free rfl) _ others
      intro _
      cases segments with
      | nil =>
          obtain ⟨start, skipped, stop⟩ := stops.stops
          exact ⟨start, skipped, stop.noLiteral⟩
      | cons segment segments =>
          exact ⟨_, skipTrivia_solid _ (by decide),
            startsLiteral_other (· == '.') _ rfl (by decide)⟩

/-- A keyword in front of a string is read with it. -/
theorem embeds_taggedText (keyword : Text) {start text : Text} {tag : Text → Literal}
    (spaced : start = keyword ++ [' ']) (isName : isWord keyword = true)
    (tagged : taggedLiteral? keyword = some tag) :
    Embeds StopsFragment expression (start ++ Literal.quotedText text) (.literal (tag text)) := by
  intro more stops
  refine ⟨more, ?_, rfl⟩
  have read : word (keyword ++ ' ' :: (Literal.quotedText text ++ more)) =
      .ok (keyword, ' ' :: (Literal.quotedText text ++ more)) :=
    word_eq_ok_iff.mpr ⟨rfl, isName, endsRun_cons _ (by decide)⟩
  have skipped : skipTrivia (' ' :: (Literal.quotedText text ++ more)) =
      .ok (Literal.quotedText text ++ more) :=
    (skip_blank _ (by decide)).trans (skipTrivia_solid _ (by decide))
  have noLiteral : Quoted.startsLiteral (keyword ++ ' ' :: (Literal.quotedText text ++ more)) = false :=
    startsLiteral_word isName (endsRun_cons _ (by decide)) (endsRun_cons _ (by decide))
  rw [spaced, List.append_assoc, List.append_assoc]
  apply expression_eq_ok_iff.mpr
  refine ⟨_, skipTrivia_word isName _, .word noLiteral ?_⟩
  exact .tagged read tagged skipped (Quoted.literal_quotedText text stops.breaks)

/-- A constant is read back from its keyword. -/
theorem embeds_constantText {keyword : Text} {value : Literal} (isName : isWord keyword = true)
    (constant : constantLiteral? keyword = some value) :
    Embeds StopsFragment expression keyword (.literal value) := by
  intro more stops
  have ends := breaks_endsRun stops.breaks
  have noLiteral := startsLiteral_word isName ends (breaks_noQuote stops.breaks)
  refine ⟨more, ?_, rfl⟩
  apply expression_eq_ok_iff.mpr
  refine ⟨_, skipTrivia_word isName _, .word noLiteral ?_⟩
  exact .constant (word_eq_ok_iff.mpr ⟨rfl, isName, ends⟩) constant

/-- The constants are read from what they are written as. -/
theorem embeds_constant {name : Text} {value : Literal} (constant : constantLiteral? name = some value) :
    Embeds StopsFragment expression value.sql (.literal value) := by
  unfold constantLiteral? at constant
  split_ifs at constant
  · cases constant
    rw [Literal.sql_null]
    exact embeds_constantText rfl rfl
  · cases constant
    rw [Literal.sql_boolean]
    exact embeds_constantText rfl rfl
  · cases constant
    rw [Literal.sql_boolean]
    exact embeds_constantText rfl rfl

/-- The literals behind a keyword are read from what they are written as. -/
theorem embeds_tagged {name text : Text} {tag : Text → Literal} (tagged : taggedLiteral? name = some tag) :
    Embeds StopsFragment expression (tag text).sql (.literal (tag text)) := by
  unfold taggedLiteral? at tagged
  split_ifs at tagged
  · cases tagged
    rw [Literal.sql_date]
    exact embeds_taggedText "DATE".toList (by decide) (by decide) rfl
  · cases tagged
    rw [Literal.sql_timestamp]
    exact embeds_taggedText "TIMESTAMP".toList (by decide) (by decide) rfl
  · cases tagged
    rw [Literal.sql_numeric]
    exact embeds_taggedText "NUMERIC".toList (by decide) (by decide) rfl
  · cases tagged
    rw [Literal.sql_json]
    exact embeds_taggedText "JSON".toList (by decide) (by decide) rfl

/-- Strings and bytes are read from what they are written as, whatever they contain. -/
theorem embeds_quoted {content : List UInt8} {bytes : Bool} {value : Literal}
    (decodes : Quoted.Decodes content bytes value) :
    Embeds StopsFragment expression value.sql (.literal value) := by
  intro more stops
  refine ⟨more, ?_, rfl⟩
  apply expression_eq_ok_iff.mpr
  cases decodes with
  | bytes =>
      have whole : (Literal.bytes content).sql ++ more = 'b' :: '\x22' ::
          (content.flatMap Literal.escapedByte ++ '\x22' :: more) := by
        simp [Literal.sql_bytes]
      rw [whole]
      exact ⟨_, skipTrivia_solid _ (by decide),
        .quoted (Quoted.literal_bytesText content stops.breaks)⟩
  | string decoded =>
      rw [Literal.sql_string]
      exact ⟨_, skipTrivia_solid _ (by decide), .quoted (Quoted.literal_quotedText _ stops.breaks)⟩

/-- A number is read from what it is written as. -/
theorem embeds_number {lexeme : Text} {value : Literal} (form : Number.Lexeme lexeme value) :
    Embeds StopsFragment expression value.sql (.literal value) := by
  intro more stops
  have read : Number.literal (value.sql ++ more) = .ok (value, more) :=
    Number.literal_eq_ok_iff.mpr ⟨_, rfl, form.sql, Number.breaks_endsNumber stops.breaks⟩
  exact ⟨more, expression_eq_ok_iff.mpr ⟨_, form.sql.solid more, .number read⟩, rfl⟩

/-- The texts of expressions embed when each of them does. -/
theorem embeds_texts {values : List Expression}
    (embeds : ∀ value ∈ values, Embeds StopsFragment expression value.sql value) :
    List.Forall₂ (Embeds StopsItem expression) (Expression.texts values) values := by
  induction values with
  | nil => exact .nil
  | cons value values ih =>
      rw [List.forall_mem_cons] at embeds
      exact .cons (embeds.1.mono fun _ stops => stops.stopsFragment) (ih embeds.2)

/-- Arguments are read back from their texts when their expressions are and their labels are valid. -/
theorem embeds_argumentTexts {arguments : List (Argument Expression)}
    (embeds : ∀ argument ∈ arguments,
      Embeds StopsFragment expression argument.expression.sql argument.expression ∧
        ∀ name ∈ argument.label, Identifier.isValid name = true) :
    List.Forall₂ (Embeds StopsItem (argument expression)) (Expression.argumentTexts arguments)
      arguments := by
  induction arguments with
  | nil => exact .nil
  | cons argument arguments ih =>
      rw [List.forall_mem_cons] at embeds
      exact .cons (embeds_argument embeds.1.2 embeds.1.1) (ih embeds.2)

/-- An array without an annotation is read from its own text. -/
theorem expression_itemsText {items : List Expression} {more : Text}
    (embeds : List.Forall₂ (Embeds StopsItem expression) (Expression.texts items) items) :
    expression ((Expression.array none items).sql ++ more) = .ok (.array none items, more) := by
  rw [Expression.sql_array, Expression.annotationText_none, List.nil_append, List.cons_append,
    List.cons_append, List.append_assoc]
  exact expression_arrayText expression_skipsFirst.blank embeds

/-- Whatever the inner reader reads is read from its own text. -/
def Restores (inner : Reader Expression) : Prop :=
  ∀ source value rest, inner source = .ok (value, rest) →
    Embeds StopsFragment expression value.sql value

section Forms

variable {inner : Reader Expression} (restored : Restores inner)

include restored

/-- Values that are read are read back from what they are written as. -/
theorem embeds_values {values : List Expression}
    (reads : ∀ value ∈ values, ∃ start after, inner start = .ok (value, after)) :
    List.Forall₂ (Embeds StopsItem expression) (Expression.texts values) values := by
  apply embeds_texts
  intro value member
  obtain ⟨start, after, read⟩ := reads value member
  exact restored start value after read

/-- The arguments of a list that is read are read back from what they are written as. -/
theorem embeds_arguments {close : Char} {source rest : Text} {arguments : List (Argument Expression)}
    (listed : ListedUntil (argument inner) close source arguments rest) :
    List.Forall₂ (Embeds StopsItem (argument expression)) (Expression.argumentTexts arguments)
      arguments := by
  apply embeds_argumentTexts
  intro value member
  obtain ⟨start, after, read⟩ := listed.values_read value member
  cases argument_eq_ok_iff.mp read with
  | plain first _ _ => exact ⟨restored _ _ _ first, by simp⟩
  | labelled first _ _ _ name =>
      have valid := (identifier_eq_ok_iff.mp name).2.1
      exact ⟨restored _ _ _ first, by simpa using valid⟩

/-- An expression that starts with a word is read from its own text. -/
theorem WordForm.restores {source rest : Text} {value : Expression}
    (form : WordForm inner source value rest) : Embeds StopsFragment expression value.sql value := by
  cases form with
  | constant _ constant =>
      rw [Expression.sql_literal]
      exact embeds_constant constant
  | @array _ _ _ _ element items _ angle _ listed =>
      have embeds := embeds_values restored listed.values_read
      intro more stops
      refine ⟨more, ?_, rfl⟩
      -- The type of the elements may be missing; with it the text starts with the keyword.
      cases angle with
      | absent _ _ => exact expression_itemsText embeds
      | @present _ _ _ element _ read _ =>
          have annotates := embeds_typeText element (type_readsWell read).wellFormed
          have whole : (Expression.array (some element) items).sql ++ more =
              "ARRAY<".toList ++ element.sql ++ '>' :: '[' ::
                (Text.commaSeparated (Expression.texts items) ++ ']' :: more) := by
            simp [Expression.sql_array, Expression.annotationText_some]
          rw [whole]
          exact expression_annotatedText expression_skipsFirst.blank annotates embeds
  | @typed _ _ _ _ _ fields values _ _ declared _ listed =>
      have embeds := embeds_values restored listed.values_read
      have members := embeds_fieldTexts fields (areWellFormed_of_listed declared)
      intro more stops
      refine ⟨more, ?_, rfl⟩
      rw [Expression.sql_typed, List.append_assoc]
      exact expression_typedText (structField_skipsFirst type).blank expression_skipsFirst.blank
        members embeds
  | @typeless _ _ _ arguments _ _ listed =>
      have embeds := embeds_arguments restored listed
      intro more stops
      refine ⟨more, ?_, rfl⟩
      have ends : EndsItem (')' :: more) := endsItem_cons more (by decide)
      rw [Expression.sql_typeless, List.append_assoc]
      exact expression_typelessText argument_skipsFirst.blank embeds ends.stopsItem ends.skipTrivia
  | tagged _ tagged _ _ =>
      rw [Expression.sql_literal]
      exact embeds_tagged tagged
  | @path name _ _ segments read free _ others =>
      have valid := (word_eq_ok_iff.mp read).2.1
      rw [Expression.sql_path]
      apply embeds_pathText _ (fun _ => free)
      rw [List.forall_mem_cons]
      exact ⟨valid, others.isValid⟩

/-- Every expression is read from its own text when those inside it are. -/
theorem ExpressionForm.restores {source rest : Text} {value : Expression}
    (form : ExpressionForm inner source value rest) :
    Embeds StopsFragment expression value.sql value := by
  cases form with
  | array listed =>
      have embeds := embeds_values restored listed.values_read
      intro more stops
      refine ⟨more, ?_, rfl⟩
      exact expression_itemsText embeds
  | parenthesized listed =>
      intro more stops
      refine ⟨more, ?_, rfl⟩
      obtain ⟨start, after, read⟩ := listed.values_read _ List.mem_cons_self
      have embeds := (restored _ _ _ read).mono fun _ stops => StopsItem.stopsFragment stops
      rw [Expression.sql_parenthesized, List.cons_append, List.cons_append, List.append_assoc]
      exact expression_parenthesesText embeds
  | @tuple _ _ values several listed =>
      have embeds := embeds_values restored listed.values_read
      have stands := listed.values_stand
      intro more stops
      refine ⟨more, ?_, rfl⟩
      rw [Expression.sql_tuple, List.cons_append, List.cons_append, List.append_assoc]
      -- A list has a value, and one value alone would be the other form in brackets.
      have atLeast : 2 ≤ values.length := by
        have one := List.length_pos_iff.mpr stands
        omega
      exact expression_tupleText expression_skipsFirst.blank embeds atLeast
  | @parameter _ _ name read =>
      intro more stops
      have valid := (identifier_eq_ok_iff.mp read).2.1
      have again : identifier (name.sql ++ more) = .ok (name, more) :=
        identifier_eq_ok_iff.mpr ⟨rfl, valid, fun _ => breaks_endsRun stops.breaks⟩
      rw [Expression.sql_parameter]
      exact ⟨more, expression_eq_ok_iff.mpr ⟨_, skipTrivia_solid _ (by decide), .parameter again⟩, rfl⟩
  | quoted read =>
      obtain ⟨_, _, _, _, _, decodes⟩ := Quoted.literal_eq_ok_iff.mp read
      rw [Expression.sql_literal]
      exact embeds_quoted decodes
  | number read =>
      obtain ⟨lexeme, _, form, _⟩ := Number.literal_eq_ok_iff.mp read
      rw [Expression.sql_literal]
      exact embeds_number form
  | path read quoted others =>
      have valid := (identifier_eq_ok_iff.mp read).2.1
      rw [Expression.sql_path]
      apply embeds_pathText
      · rw [List.forall_mem_cons]
        exact ⟨valid, others.isValid⟩
      · rw [quoted]
        exact fun plain => nomatch plain
  | word _ form => exact form.restores restored

end Forms

/-- Every expression that is read is read again from its own text. -/
theorem expression_restores : Restores expression := by
  intro source value rest read
  refine expression_induction
    (motive := fun _ value _ => Embeds StopsFragment expression value.sql value) ?_ read
  intro inner _ restored _ _ _ _ _ form
  exact form.restores restored

theorem stopsFragment_nil : StopsFragment [] := endsItem_nil.stopsItem.stopsFragment

end Grammar

/-- Writing an expression that was read and reading it again changes nothing. -/
theorem parseExpression_sql {source : Text} {value : Expression}
    (read : parseExpression source = .ok value) : parseExpression value.sql = .ok value := by
  obtain ⟨rest, first, _⟩ := Grammar.whole_eq_ok_iff.mp (parseExpression_eq_ok_iff.mp read)
  apply parseExpression_eq_ok_iff.mpr
  exact (Grammar.expression_restores _ _ _ first).whole Grammar.stopsFragment_nil

/-- A hexadecimal number in front of an alias, bytes and an empty string in front of a bracket. -/
theorem parseExpression_sql_mixed :
    parseExpression "STRUCT(-0X1f AS n,[B'\\xfF\\101',''])".toList =
        .ok (.typeless [⟨.literal (.integer "-1f".toList 16), some ⟨"n".toList, false⟩⟩,
          ⟨.array none [.literal (.bytes [255, 65]), .literal (.string [])], none⟩]) ∧
      parseExpression (Expression.typeless
          [⟨.literal (.integer "-1f".toList 16), some ⟨"n".toList, false⟩⟩,
            ⟨.array none [.literal (.bytes [255, 65]), .literal (.string [])], none⟩]).sql =
        .ok (.typeless [⟨.literal (.integer "-1f".toList 16), some ⟨"n".toList, false⟩⟩,
          ⟨.array none [.literal (.bytes [255, 65]), .literal (.string [])], none⟩]) := by
  have read : parseExpression "STRUCT(-0X1f AS n,[B'\\xfF\\101',''])".toList =
      .ok (.typeless [⟨.literal (.integer "-1f".toList 16), some ⟨"n".toList, false⟩⟩,
        ⟨.array none [.literal (.bytes [255, 65]), .literal (.string [])], none⟩]) :=
    Grammar.eq_ok_of_toOption (by decide +kernel)
  exact ⟨read, parseExpression_sql read⟩

end ParamCodec
