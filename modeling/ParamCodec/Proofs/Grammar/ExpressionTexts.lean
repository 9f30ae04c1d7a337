import ParamCodec.Proofs.Grammar.Continuation
import ParamCodec.Proofs.Grammar.TypeTexts

namespace ParamCodec

namespace Grammar

/-- Text in front of which every fragment stops. -/
structure StopsFragment (text : Text) : Prop where
  breaks : Breaks text
  stops : ∃ start, skipTrivia text = .ok start ∧ EndsFragment start

/-- Text in front of which every item of a list stops. -/
structure StopsItem (text : Text) : Prop where
  breaks : Breaks text
  stops : ∃ start, skipTrivia text = .ok start ∧ EndsItem start

/-- No fragment goes on with a mark that ends an item. -/
theorem EndsItem.endsFragment {text : Text} (ends : EndsItem text) : EndsFragment text := by
  constructor
  · intro mark member
    exact ends.startsWith (not_mem_of_mem member (by decide))
  · cases text with
    | nil => rfl
    | cons letter text =>
        have found := List.contains_iff_mem.mpr (ends letter rfl)
        exact startsLiteral_other _ text found (by decide)

/-- Where items stop, fragments stop. -/
theorem StopsItem.stopsFragment {text : Text} (stops : StopsItem text) : StopsFragment text := by
  obtain ⟨start, skipped, ends⟩ := stops.stops
  exact ⟨stops.breaks, start, skipped, ends.endsFragment⟩

/-- Items stop in front of the marks that end them. -/
theorem EndsItem.stopsItem {text : Text} (ends : EndsItem text) : StopsItem text :=
  ⟨ends.breaks, text, ends.skipTrivia, ends⟩

/-- Expressions may stand behind trivia. -/
theorem expression_skipsFirst : SkipsFirst expression :=
  skipsFirst_of_bind expression_eq_expressionWith

/-- Arguments may stand behind trivia. -/
theorem argument_skipsFirst : SkipsFirst (argument expression) := by
  intro source
  unfold argument
  rw [expression_skipsFirst source]
  cases skipTrivia source <;> rfl

/-- The letters that an expression can start with. -/
def startsExpression (letter : Char) : Bool :=
  ['[', '(', '@', '\x60', '\x27', '\x22'].contains letter || isNumberStart letter ||
    Identifier.isWordStart letter

/-- An expression is not empty and starts with one of the letters that start expressions. -/
theorem ExpressionForm.head {inner : Reader Expression} {source rest : Text} {value : Expression}
    (form : ExpressionForm inner source value rest) :
    ∃ letter tail, source = letter :: tail ∧ startsExpression letter = true := by
  cases form with
  | array _ => exact ⟨_, _, rfl, rfl⟩
  | parenthesized _ => exact ⟨_, _, rfl, rfl⟩
  | tuple _ _ => exact ⟨_, _, rfl, rfl⟩
  | parameter _ => exact ⟨_, _, rfl, rfl⟩
  | quoted read =>
      obtain ⟨letter, tail, rfl⟩ := List.exists_cons_of_ne_nil (Quoted.literal_consumes.stands read)
      refine ⟨letter, tail, rfl, ?_⟩
      have head := Quoted.startsLiteral_head (Quoted.startsLiteral_of_literal read)
      exact all_of_mem head (by decide)
  | number read =>
      obtain ⟨letter, tail, rfl, number⟩ := Number.literal_starts read
      exact ⟨letter, tail, rfl, by rw [startsExpression, number, Bool.or_true, Bool.true_or]⟩
  | path read quoted _ =>
      obtain ⟨tail, rfl⟩ := backquote_of_quoted read quoted
      exact ⟨_, tail, rfl, rfl⟩
  | word _ form =>
      obtain ⟨letter, tail, rfl, starts⟩ := form.starts
      exact ⟨letter, tail, rfl, by rw [startsExpression, starts, Bool.or_true]⟩

/-- No expression starts with a closing bracket. -/
theorem expression_close {close : Char} (closes : close ∈ [']', ')']) (more : Text)
    (value : Expression) (rest : Text) : expression (close :: more) ≠ .ok (value, rest) := by
  intro read
  obtain ⟨start, skipped, form⟩ := expression_eq_ok_iff.mp read
  obtain ⟨letter, tail, rfl, starts⟩ := form.head
  cases (skipTrivia_of_mem closes more (by decide)).symm.trans skipped
  have startsNone : startsExpression close = false := none_of_mem closes (by decide)
  rw [startsNone] at starts
  cases starts

/-- No argument starts with the bracket that closes a struct. -/
theorem argument_close (more : Text) (value : Argument Expression) (rest : Text) :
    argument expression (')' :: more) ≠ .ok (value, rest) := by
  intro read
  cases argument_eq_ok_iff.mp read with
  | plain first _ _ => exact expression_close (by decide) _ _ _ first
  | labelled first _ _ _ _ => exact expression_close (by decide) _ _ _ first

/-- No literal starts with a first letter of the keywords. -/
theorem starts_upper : Quoted.literalStarts.any ['A', 'S', 'D', 'T', 'N', 'J'].contains = false := by
  decide

section Composites

variable {texts : List Text} {values : List Expression} {gap ending more : Text}

/-- The expressions in brackets are read from their texts. -/
theorem expressions_listed {close : Char} (closes : close ∈ [']', ')'])
    (blank : ∀ source, expression (gap ++ source) = expression source)
    (embeds : List.Forall₂ (Embeds StopsItem expression) texts values) :
    ListedUntil expression close (List.intercalate (',' :: gap) texts ++ close :: more) values more := by
  have isMark : [',', ']', ')', '>'].contains close = true := all_of_mem closes (by decide)
  have ends : EndsItem (close :: more) := endsItem_cons more (List.contains_iff_mem.mp isMark)
  have commaEnds (text : Text) : StopsItem (',' :: text) := (endsItem_cons text (by decide)).stopsItem
  exact ListedUntil.of_embeds expression_skipsFirst blank (expression_close closes) commaEnds
    ends.stopsItem ends.skipTrivia embeds

/-- Texts of items between square brackets are read as the array of their items. -/
theorem expression_arrayText (blank : ∀ source, expression (gap ++ source) = expression source)
    (embeds : List.Forall₂ (Embeds StopsItem expression) texts values) :
    expression ('[' :: List.intercalate (',' :: gap) texts ++ ']' :: more) =
      .ok (.array none values, more) := by
  apply expression_eq_ok_iff.mpr
  exact ⟨_, skipTrivia_solid _ (by decide), .array (expressions_listed (by decide) blank embeds)⟩

/-- One expression in parentheses is no tuple. -/
theorem expression_parenthesesText {text : Text} {value : Expression}
    (embeds : Embeds StopsItem expression text value) :
    expression ('(' :: text ++ ')' :: more) = .ok (.parenthesized value, more) := by
  have ends : EndsItem (')' :: more) := endsItem_cons more (by decide)
  obtain ⟨rest, read, skipped⟩ := embeds _ ends.stopsItem
  apply expression_eq_ok_iff.mpr
  refine ⟨_, skipTrivia_solid _ (by decide), .parenthesized ?_⟩
  exact .last read (skipped.trans ends.skipTrivia)

/-- Two or more texts between round brackets are read as the tuple of their values. -/
theorem expression_tupleText (blank : ∀ source, expression (gap ++ source) = expression source)
    (embeds : List.Forall₂ (Embeds StopsItem expression) texts values) (several : 2 ≤ values.length) :
    expression ('(' :: List.intercalate (',' :: gap) texts ++ ')' :: more) =
      .ok (.tuple values, more) := by
  have ends : EndsItem (')' :: more) := endsItem_cons more (by decide)
  have commaEnds (text : Text) : StopsItem (',' :: text) := (endsItem_cons text (by decide)).stopsItem
  have stands : texts ≠ [] := by
    rintro rfl
    cases embeds
    simp at several
  apply expression_eq_ok_iff.mpr
  refine ⟨_, skipTrivia_solid _ (by decide), .tuple (by omega) ?_⟩
  exact Listed.of_embeds blank commaEnds ends.stopsItem ends.skipTrivia embeds stands

/-- Texts of arguments behind the keyword are read as the struct of their arguments. -/
theorem expression_typelessText {arguments : List (Argument Expression)}
    (blank : ∀ source, argument expression (gap ++ source) = argument expression source)
    (embeds : List.Forall₂ (Embeds StopsItem (argument expression)) texts arguments)
    (endingEnds : StopsItem ending) (closes : skipTrivia ending = .ok (')' :: more)) :
    expression ("STRUCT(".toList ++ List.intercalate (',' :: gap) texts ++ ending) =
      .ok (.typeless arguments, more) := by
  have commaEnds (text : Text) : StopsItem (',' :: text) := (endsItem_cons text (by decide)).stopsItem
  have listed := ListedUntil.of_embeds argument_skipsFirst blank argument_close commaEnds endingEnds
    closes embeds
  have keyword : afterKeyword? "STRUCT".toList ("STRUCT".toList ++
      '(' :: (List.intercalate (',' :: gap) texts ++ ending)) =
      some ('(' :: (List.intercalate (',' :: gap) texts ++ ending)) :=
    afterKeyword?_append (by decide) (endsRun_cons _ (by decide))
  rw [List.append_assoc]
  apply expression_eq_ok_iff.mpr
  refine ⟨_, skipTrivia_solid _ (by decide), .word (startsLiteral_other _ _ rfl starts_upper) ?_⟩
  exact .typeless keyword (skipTrivia_solid _ (by decide)) listed

/-- Declared fields in front of the values of a struct. -/
theorem expression_typedText {fieldTexts : List Text} {fields : List (FieldFragment TypeFragment)}
    (blankFields : ∀ source, structField type (gap ++ source) = structField type source)
    (blank : ∀ source, expression (gap ++ source) = expression source)
    (declared : List.Forall₂ (Embeds EndsItem (structField type)) fieldTexts fields)
    (embeds : List.Forall₂ (Embeds StopsItem expression) texts values) :
    expression ("STRUCT<".toList ++ List.intercalate (',' :: gap) fieldTexts ++ ">(".toList ++
      List.intercalate (',' :: gap) texts ++ ')' :: more) = .ok (.typed fields values, more) := by
  have listed : ListedUntil expression ')' (List.intercalate (',' :: gap) texts ++ ')' :: more)
      values more := expressions_listed (by decide) blank embeds
  have members := fields_listed blankFields declared
    ('(' :: (List.intercalate (',' :: gap) texts ++ ')' :: more))
  have keyword (behind : Text) : afterKeyword? "STRUCT".toList ("STRUCT".toList ++ '<' :: behind) =
      some ('<' :: behind) := afterKeyword?_append (by decide) (endsRun_cons _ (by decide))
  have whole : "STRUCT<".toList ++ List.intercalate (',' :: gap) fieldTexts ++ ">(".toList ++
      List.intercalate (',' :: gap) texts ++ ')' :: more = "STRUCT".toList ++
      '<' :: (List.intercalate (',' :: gap) fieldTexts ++ '>' :: '(' ::
        (List.intercalate (',' :: gap) texts ++ ')' :: more)) := by
    simp
  rw [whole]
  apply expression_eq_ok_iff.mpr
  refine ⟨_, skipTrivia_solid _ (by decide), .word (startsLiteral_other _ _ rfl starts_upper) ?_⟩
  exact .typed (keyword _) (skipTrivia_solid _ (by decide)) members (skipTrivia_solid _ (by decide)) listed

/-- An array with its element type in front. -/
theorem expression_annotatedText {elementText : Text} {element : TypeFragment}
    (blank : ∀ source, expression (gap ++ source) = expression source)
    (annotates : Embeds EndsItem type elementText element)
    (embeds : List.Forall₂ (Embeds StopsItem expression) texts values) :
    expression ("ARRAY<".toList ++ elementText ++ '>' :: '[' ::
      (List.intercalate (',' :: gap) texts ++ ']' :: more)) =
      .ok (.array (some element) values, more) := by
  have listed : ListedUntil expression ']' (List.intercalate (',' :: gap) texts ++ ']' :: more)
      values more := expressions_listed (by decide) blank embeds
  have keyword (behind : Text) : afterKeyword? "ARRAY".toList ("ARRAY".toList ++ '<' :: behind) =
      some ('<' :: behind) := afterKeyword?_append (by decide) (endsRun_cons _ (by decide))
  have closeEnds (behind : Text) : EndsItem ('>' :: behind) := endsItem_cons behind (by decide)
  obtain ⟨rest, read, skipped⟩ := annotates _
    (closeEnds ('[' :: (List.intercalate (',' :: gap) texts ++ ']' :: more)))
  rw [List.append_assoc]
  apply expression_eq_ok_iff.mpr
  refine ⟨_, skipTrivia_solid _ (by decide), .word (startsLiteral_other _ _ rfl starts_upper) ?_⟩
  apply WordForm.array (keyword _) _ (skipTrivia_solid _ (by decide)) listed
  exact .present (skipTrivia_solid _ (by decide)) read (skipped.trans (skipTrivia_solid _ (by decide)))

end Composites

/-- An alias behind `AS` belongs to the expression in front of it. -/
theorem embeds_argument {text : Text} {value : Expression} {label : Option Identifier}
    (valid : ∀ name ∈ label, Identifier.isValid name = true)
    (embeds : Embeds StopsFragment expression text value) :
    Embeds StopsItem (argument expression) (text ++ Expression.labelText label) ⟨value, label⟩ := by
  intro more stops
  cases label with
  | none =>
      obtain ⟨rest, read, skipped⟩ := embeds more stops.stopsFragment
      obtain ⟨start, skip, ends⟩ := stops.stops
      -- What stops an item is no word, so it is not taken for an alias.
      have noKeyword : afterKeyword? "AS".toList start = none := by
        cases found : afterKeyword? "AS".toList start with
        | none => rfl
        | some rest =>
            have starts := startsWord_of_keyword found
            rw [ends.startsWord] at starts
            cases starts
      rw [Expression.labelText, List.append_nil]
      refine ⟨start, argument_eq_ok_iff.mpr (.plain read (skipped.trans skip) noKeyword), ?_⟩
      rw [skip, skipTrivia_idem skip]
  | some label =>
      have isName := valid label rfl
      -- The keyword of the alias stops the expression: it is no mark that an expression goes on with,
      -- and no literal.
      have labelled : StopsFragment (" AS ".toList ++ (label.sql ++ more)) := by
        refine ⟨fun letter found => ?_, "AS ".toList ++ (label.sql ++ more), ?_, ?_⟩
        · cases found
          rfl
        · exact (skip_blank _ (by decide)).trans (skipTrivia_solid _ (by decide))
        · refine ⟨fun mark member => ?_, startsLiteral_other _ _ rfl starts_upper⟩
          exact startsWith_other Char.isUpper _ rfl (none_of_mem member (by decide))
      obtain ⟨rest, read, skipped⟩ := embeds _ labelled
      have keyword : afterKeyword? "AS".toList ("AS".toList ++ ' ' :: (label.sql ++ more)) =
          some (' ' :: (label.sql ++ more)) :=
        afterKeyword?_append (by decide) (endsRun_cons _ (by decide))
      have named : identifier (label.sql ++ more) = .ok (label, more) :=
        identifier_eq_ok_iff.mpr ⟨rfl, isName, fun _ => breaks_endsRun stops.breaks⟩
      have skip : skipTrivia (" AS ".toList ++ (label.sql ++ more)) =
          .ok ("AS".toList ++ ' ' :: (label.sql ++ more)) :=
        (skip_blank _ (by decide)).trans (skipTrivia_solid _ (by decide))
      rw [Expression.labelText, List.append_assoc, List.append_assoc]
      refine ⟨more, argument_eq_ok_iff.mpr (.labelled read (skipped.trans skip) keyword ?_ named), rfl⟩
      exact (skip_blank _ (by decide)).trans (skipTrivia_name isName more)

end Grammar

end ParamCodec
