import ParamCodec.Proofs.Grammar.ExpressionDepth
import ParamCodec.Proofs.Grammar.TypeTexts
import ParamCodec.Proofs.Grammar.Whole

namespace ParamCodec

namespace Grammar

/-- Behind the first word of a type stands its length, its brackets or its end. -/
theorem TypeForm.behindWord {inner : Reader TypeFragment} {source rest name after : Text}
    {fragment : TypeFragment} (form : TypeForm inner source fragment rest)
    (head : word source = .ok (name, after)) :
    rest = after ∨ ∃ mark inside, mark ∈ ['(', '<'] ∧ skipTrivia after = .ok (mark :: inside) := by
  rcases form.cases_word head with ⟨_, _, angle⟩ | ⟨_, _, _, opens, _⟩ | ⟨_, named⟩
  · cases angle with
    | absent _ _ => exact .inl rfl
    | present opens _ _ => exact .inr ⟨'<', _, by decide, opens⟩
  · exact .inr ⟨'<', _, by decide, opens⟩
  · cases named with
    | plain again _ _ _ =>
        cases head.symm.trans again
        exact .inl rfl
    | sized again _ opens _ _ _ =>
        cases head.symm.trans again
        exact .inr ⟨'(', _, by decide, opens⟩

/-- Behind the first word of a whole type there is nothing, or a bracket. -/
theorem TypeForm.noLiteralBehind {inner : Reader TypeFragment} {source rest name after next : Text}
    {fragment : TypeFragment} (form : TypeForm inner source fragment rest)
    (ended : skipTrivia rest = .ok []) (head : word source = .ok (name, after))
    (skipped : skipTrivia after = .ok next) : Quoted.startsLiteral next = false := by
  rcases form.behindWord head with rfl | ⟨mark, inside, isMark, opens⟩
  · cases skipped.symm.trans ended
    rfl
  · cases skipped.symm.trans opens
    exact startsLiteral_other ['(', '<'].contains inside
      (List.contains_iff_mem.mpr isMark) (by decide)

/-- A quote starts a literal. -/
theorem startsLiteral_mark {mark : Char} (isMark : mark ∈ ['\x27', '\x22']) (rest : Text) :
    Quoted.startsLiteral (mark :: rest) = true :=
  Quoted.startsLiteral_iff.mpr ⟨_, _, [], mark, .none, isMark, rest, rfl⟩

theorem skipTrivia_mark {mark : Char} (isMark : mark ∈ ['\x27', '\x22']) (rest : Text) :
    skipTrivia (mark :: rest) = .ok (mark :: rest) :=
  skipTrivia_of_mem isMark rest (by decide)

/-- The letters in front of a quote are a word of their own. -/
theorem word_letters {raw bytes : Bool} {taken : Text} {mark : Char} (rest : Text)
    (letters : Quoted.Letters raw bytes taken) (stands : taken ≠ [])
    (isMark : mark ∈ ['\x27', '\x22']) :
    word (taken ++ mark :: rest) = .ok (taken, mark :: rest) := by
  have parts := letters.isWordPart
  obtain ⟨letter, others, rfl⟩ := List.exists_cons_of_ne_nil stands
  rw [List.all_cons, Bool.and_eq_true] at parts
  have starts : Identifier.isWordStart letter = true := letters.isWordStart letter rfl
  apply word_eq_ok_iff.mpr
  refine ⟨rfl, ?_, endsRun_cons rest (Quoted.isWordPart_of_mark isMark)⟩
  rw [isWord, starts, parts.2]
  rfl

/-- A literal in quotes is no type, even when its letters are a word. -/
theorem TypeForm.noQuoted {inner : Reader TypeFragment} {source rest : Text}
    {fragment : TypeFragment} (form : TypeForm inner source fragment rest)
    (ended : skipTrivia rest = .ok []) : Quoted.startsLiteral source = false := by
  refine Bool.eq_false_iff.mpr fun starts => ?_
  obtain ⟨raw, bytes, taken, mark, letters, isMark, behind, whole⟩ :=
    Quoted.startsLiteral_iff.mp starts
  have same : source = taken ++ mark :: behind := by rw [← whole, List.append_assoc]; rfl
  have startsType := form.startsWord
  by_cases stands : taken = []
  · rw [same, stands, List.nil_append] at startsType
    rw [List.mem_pair] at isMark
    rcases isMark with rfl | rfl <;> cases startsType
  · have head := word_letters behind letters stands isMark
    rw [← same] at head
    have noLiteral := form.noLiteralBehind ended head (skipTrivia_mark isMark behind)
    rw [startsLiteral_mark isMark behind] at noLiteral
    cases noLiteral

/-- Two readings of the same brackets leave the same rest. -/
theorem AngleForm.rest_eq {source rest other : Text} {element found : Option TypeFragment}
    (first : AngleForm type source element rest) (second : AngleForm type source found other) :
    rest = other := by
  have read := (angleType_eq_ok_iff.mpr first).symm.trans (angleType_eq_ok_iff.mpr second)
  exact (Prod.mk.inj (Except.ok.inj read)).2

/-- Two lists of fields of one source end at the same place. -/
theorem fields_rest_eq {source rest other : Text} {fields found : List (FieldFragment TypeFragment)}
    (first : ListedUntil (structField type) '>' source fields rest)
    (second : ListedUntil (structField type) '>' source found other) : rest = other := by
  have one := (structFields_eq_ok_iff type_consumes).mpr ⟨source, rfl, first⟩
  have two := (structFields_eq_ok_iff type_consumes).mpr ⟨source, rfl, second⟩
  exact (Prod.mk.inj (Except.ok.inj (one.symm.trans two))).2

/-- The composite keywords are reserved. -/
theorem isReserved_of_composite {name keyword : Text} (same : Text.sameWord name keyword = true)
    (composite : keyword = "ARRAY".toList ∨ keyword = "STRUCT".toList) : isReserved name = true := by
  rw [isReserved, isAmong_congr same]
  rcases composite with rfl | rfl <;> decide

/-- A whole array type leaves nothing for the items of an array literal. -/
theorem TypeForm.noItems {source rest after next inside : Text} {fragment : TypeFragment}
    {element : Option TypeFragment} (form : TypeForm type source fragment rest)
    (ended : skipTrivia rest = .ok []) (keyword : afterKeyword? "ARRAY".toList source = some after)
    (angle : AngleForm type after element next) : skipTrivia next ≠ .ok ('[' :: inside) := by
  intro opens
  obtain ⟨name, head, same⟩ := afterKeyword?_eq_some_iff.mp keyword
  rcases form.cases_word head with ⟨_, _, found⟩ | ⟨differs, _⟩ | ⟨free, _⟩
  · rw [angle.rest_eq found] at opens
    cases opens.symm.trans ended
  · exact absurd (sameWord_eq same differs) (by decide)
  · rw [isReserved_of_composite same (.inl rfl)] at free
    cases free

/-- A whole struct type goes on with its members and leaves nothing for the values of a struct. -/
theorem TypeForm.struct_inv {source rest after : Text} {fragment : TypeFragment}
    (form : TypeForm type source fragment rest)
    (keyword : afterKeyword? "STRUCT".toList source = some after) :
    ∃ inside fields, skipTrivia after = .ok ('<' :: inside) ∧
      ListedUntil (structField type) '>' inside fields rest := by
  obtain ⟨name, head, same⟩ := afterKeyword?_eq_some_iff.mp keyword
  rcases form.cases_word head with ⟨differs, _⟩ | ⟨_, listed⟩ | ⟨free, _⟩
  · exact absurd (sameWord_eq same differs) (by decide)
  · exact listed
  · rw [isReserved_of_composite same (.inr rfl)] at free
    cases free

/-- The type that starts with a word that is not reserved is a named one. -/
theorem TypeForm.named_inv {source rest name after : Text} {fragment : TypeFragment}
    (form : TypeForm type source fragment rest) (head : word source = .ok (name, after))
    (free : isReserved name = false) : NamedForm source fragment rest := by
  rcases form.cases_word head with ⟨same, _⟩ | ⟨same, _⟩ | ⟨_, named⟩
  · rw [isReserved_of_composite same (.inl rfl)] at free
    cases free
  · rw [isReserved_of_composite same (.inr rfl)] at free
    cases free
  · exact named

/-- No type starts with a constant. -/
theorem TypeForm.noConstant {source rest name after : Text} {fragment : TypeFragment}
    (form : TypeForm type source fragment rest) (head : word source = .ok (name, after)) :
    constantLiteral? name = none := by
  rcases form.cases_word head with ⟨same, _⟩ | ⟨same, _⟩ | ⟨free, _⟩
  · exact constantLiteral?_composite same (.inl rfl)
  · exact constantLiteral?_composite same (.inr rfl)
  · exact constantLiteral?_eq_none free

/-- What is a whole type and a whole expression is a single word. -/
theorem path_of_typeForm {source rest left : Text} {fragment : TypeFragment} {value : Expression}
    (form : TypeForm type source fragment rest) (ended : skipTrivia rest = .ok [])
    (wordForm : WordForm expression source value left) (endedValue : skipTrivia left = .ok []) :
    ∃ name, word source = .ok (name, left) ∧ isReserved name = false ∧
      fragment = .named ⟨name, false⟩ none ∧ value = .path [⟨name, false⟩] := by
  -- Every form but a path needs a bracket or a quote where the type, and with it the source, ends.
  cases wordForm with
  | constant head constant =>
      rw [form.noConstant head] at constant
      cases constant
  | array keyword angle opens _ => exact absurd opens (form.noItems ended keyword angle)
  | typed keyword opens declared opensValues _ =>
      obtain ⟨_, _, again, members⟩ := form.struct_inv keyword
      cases opens.symm.trans again
      rw [fields_rest_eq declared members] at opensValues
      cases opensValues.symm.trans ended
  | typeless keyword opens _ =>
      obtain ⟨_, _, again, _⟩ := form.struct_inv keyword
      cases opens.symm.trans again
  | tagged head _ skipped content =>
      have noLiteral := form.noLiteralBehind ended head skipped
      rw [Quoted.startsLiteral_of_literal content] at noLiteral
      cases noLiteral
  | @path name after _ segments head free _ others =>
      have named := form.named_inv head free
      cases named with
      | plain again _ skipped _ =>
          cases head.symm.trans again
          cases others with
          | done _ _ => exact ⟨name, head, free, rfl, rfl⟩
          | more point _ _ _ => cases ended.symm.trans point
      | sized again _ opens _ _ _ =>
          -- The parenthesis of the length is neither the end of the source nor a point.
          cases head.symm.trans again
          cases others with
          | done _ _ => cases endedValue.symm.trans opens
          | more point _ _ _ => cases opens.symm.trans point

/-- What is a type as a whole and an expression as a whole is a single word between trivia. -/
theorem word_of_both {source rest left : Text} {fragment : TypeFragment} {value : Expression}
    (typed : type source = .ok (fragment, rest)) (ended : skipTrivia rest = .ok [])
    (read : expression source = .ok (value, left)) (endedValue : skipTrivia left = .ok []) :
    ∃ start name, skipTrivia source = .ok start ∧ word start = .ok (name, left) ∧
      isReserved name = false ∧ fragment = .named ⟨name, false⟩ none ∧
        value = .path [⟨name, false⟩] := by
  obtain ⟨start, skipped, form⟩ := type_eq_ok_iff.mp typed
  obtain ⟨same, skippedAgain, valueForm⟩ := expression_eq_ok_iff.mp read
  obtain rfl : start = same := Except.ok.inj (skipped.symm.trans skippedAgain)
  have starts := form.startsWord
  -- A type starts with a word, which leaves the expressions that start with one.
  cases valueForm with
  | array _ => cases starts
  | parenthesized _ => cases starts
  | tuple _ _ => cases starts
  | parameter _ => cases starts
  | quoted literal =>
      have noQuoted := form.noQuoted ended
      rw [Quoted.startsLiteral_of_literal literal] at noQuoted
      cases noQuoted
  | number literal =>
      obtain ⟨letter, tail, rfl, number⟩ := Number.literal_starts literal
      rw [isNumberStart_of_isWordStart starts] at number
      cases number
  | path first quoted _ =>
      obtain ⟨tail, rfl⟩ := backquote_of_quoted first quoted
      cases starts
  | word _ wordForm =>
      obtain ⟨name, head, free, rfl, rfl⟩ := path_of_typeForm form ended wordForm endedValue
      exact ⟨start, name, skipped, head, free, rfl, rfl⟩

end Grammar

end ParamCodec
