import ParamCodec.Proofs.Grammar.ExpressionDepth
import ParamCodec.Proofs.Grammar.Whole

namespace ParamCodec

/-- An integer or a float. -/
def Literal.isNumber : Literal → Bool
  | integer .. => true
  | float _ => true
  | _ => false

namespace Grammar

/-- Trivia ends a run of letters that start none. -/
theorem Trivia.endsRun {kind : Char → Bool} {text : Text} (trivia : Trivia [] text)
    (solid : ∀ letter, kind letter = true →
      (Text.isBlank letter || ['-', '#', '/'].contains letter) = false) : EndsRun kind text := by
  have other {letter : Char} (starts : (Text.isBlank letter || ['-', '#', '/'].contains letter) = true) :
      kind letter = false := by
    refine Bool.eq_false_iff.mpr fun goesOn => ?_
    rw [solid letter goesOn] at starts
    cases starts
  cases trivia with
  | nil => exact fun _ found => nomatch found
  | blank blank _ => exact endsRun_cons _ (other (by rw [blank, Bool.true_or]))
  | lineComment opens _ _ _ =>
      rcases opens with rfl | rfl
      · exact endsRun_cons _ (other (by decide))
      · exact endsRun_cons _ (other (by decide))
  | blockComment _ _ => exact endsRun_cons _ (other (by decide))

namespace Number

/-- How a number may be spelled, and the literal that it spells. -/
inductive Spelling : Text → Literal → Prop
  | hexadecimal {sign digits : Text} {mark : Char} (signed : IsSign sign)
      (marked : mark = 'x' ∨ mark = 'X') (stands : digits ≠ [])
      (all : digits.all Text.isHexDigit = true) :
      Spelling (sign ++ '0' :: mark :: digits) (.integer (sign ++ digits) 16)
  | integer {sign digits : Text} (signed : IsSign sign) (stands : digits ≠ [])
      (all : digits.all Char.isDigit = true) :
      Spelling (sign ++ digits) (.integer (sign ++ digits) 10)
  | pointed {sign whole places power : Text} (signed : IsSign sign)
      (allWhole : whole.all Char.isDigit = true) (allPlaces : places.all Char.isDigit = true)
      (stands : whole ≠ [] ∨ places ≠ []) (isPower : IsPower power) :
      Spelling (sign ++ whole ++ '.' :: places ++ power) (.float (sign ++ whole ++ '.' :: places ++ power))
  | scaled {sign whole power : Text} (signed : IsSign sign) (stands : whole ≠ [])
      (all : whole.all Char.isDigit = true) (isPower : IsPower power) (scales : power ≠ []) :
      Spelling (sign ++ whole ++ power) (.float (sign ++ whole ++ power))

/-- The lexemes of the reader are the spellings of numbers. -/
theorem lexeme_iff_spelling {lexeme : Text} {value : Literal} :
    Lexeme lexeme value ↔ Spelling lexeme value := by
  constructor
  · intro form
    cases form with
    | hexadecimal signed marked stands all => exact .hexadecimal signed marked stands all
    | @decimal sign whole places power signed all stands isPlaces isPower =>
        rcases isPlaces with rfl | ⟨digits, rfl, allPlaces, someDigit⟩
        · have someWhole : whole ≠ [] := stands.resolve_right (not_not.mpr rfl)
          rw [List.append_nil]
          cases power with
          | nil =>
              rw [List.append_nil]
              exact .integer signed someWhole all
          | cons mark power => exact .scaled signed someWhole all isPower (List.cons_ne_nil _ _)
        · exact .pointed signed all allPlaces someDigit isPower
  · intro form
    cases form with
    | hexadecimal signed marked stands all => exact .hexadecimal signed marked stands all
    | integer signed stands all =>
        simpa using Lexeme.decimal signed all (.inl stands) (.inl rfl) (.inl rfl)
    | pointed signed allWhole allPlaces stands isPower =>
        exact .decimal signed allWhole (.inr (List.cons_ne_nil _ _))
          (.inr ⟨_, rfl, allPlaces, stands⟩) isPower
    | @scaled sign whole power signed stands all isPower scales =>
        have noInteger : power.isEmpty = false := List.isEmpty_eq_false_iff.mpr scales
        simpa [noInteger] using Lexeme.decimal signed all (.inl stands) (.inl rfl) isPower

/-- A spelling of a number stands for a number literal. -/
theorem Spelling.isNumber {lexeme : Text} {value : Literal} (form : Spelling lexeme value) :
    value.isNumber = true := by
  cases form <;> rfl

/-- A part of a number starts no trivia. -/
theorem isNumberPart_solid {letter : Char} (part : isNumberPart letter = true) :
    (Text.isBlank letter || ['-', '#', '/'].contains letter) = false := by
  rcases Bool.or_eq_true_iff.mp part with wordPart | point
  · exact isWordPart_solid wordPart
  · obtain rfl := beq_iff_eq.mp point
    decide

end Number

/-- Quoted content is no number. -/
theorem Quoted.Decodes.not_number {content : List UInt8} {bytes : Bool} {value : Literal}
    (decodes : Decodes content bytes value) : value.isNumber = false := by
  cases decodes <;> rfl

/-- A constant is no number. -/
theorem constantLiteral?_not_number {name : Text} {value : Literal}
    (constant : constantLiteral? name = some value) : value.isNumber = false := by
  unfold constantLiteral? at constant
  split_ifs at constant <;> cases constant <;> rfl

/-- A tagged string is no number. -/
theorem taggedLiteral?_not_number {name : Text} {tag : Text → Literal}
    (tagged : taggedLiteral? name = some tag) (text : Text) : (tag text).isNumber = false := by
  unfold taggedLiteral? at tagged
  split_ifs at tagged <;> cases tagged <;> rfl

/-- Among the forms of an expression only a number gives an integer or a float. -/
theorem ExpressionForm.number_of_literal {inner : Reader Expression} {source rest : Text}
    {value : Literal} (form : ExpressionForm inner source (.literal value) rest)
    (number : value.isNumber = true) : Number.literal source = .ok (value, rest) := by
  generalize same : Expression.literal value = whole at form
  have other {found : Literal} (same : Expression.literal value = .literal found)
      (noNumber : found.isNumber = false) : False := by
    cases same
    rw [number] at noNumber
    cases noNumber
  cases form with
  | number read =>
      cases same
      exact read
  | quoted read =>
      obtain ⟨_, _, _, _, _, decodes⟩ := Quoted.literal_eq_ok_iff.mp read
      exact (other same decodes.not_number).elim
  | word _ form =>
      cases form with
      | constant _ constant => exact (other same (constantLiteral?_not_number constant)).elim
      | tagged _ tagged _ _ => exact (other same (taggedLiteral?_not_number tagged _)).elim
      | _ => cases same
  | _ => cases same

/-- No form of an expression but a number starts with a digit, a point or a sign. -/
theorem ExpressionForm.number_of_head {inner : Reader Expression} {letter : Char} {source rest : Text}
    {value : Expression} (form : ExpressionForm inner (letter :: source) value rest)
    (starts : isNumberStart letter = true) :
    ∃ number, value = .literal number ∧ Number.literal (letter :: source) = .ok (number, rest) := by
  cases form with
  | number read => exact ⟨_, rfl, read⟩
  | array _ => cases starts
  | parenthesized _ => cases starts
  | tuple _ _ => cases starts
  | parameter _ => cases starts
  | quoted read =>
      have head := Quoted.startsLiteral_head (Quoted.startsLiteral_of_literal read)
      have noNumber : isNumberStart letter = false := none_of_mem head (by decide)
      rw [noNumber] at starts
      cases starts
  | path read quoted _ =>
      obtain ⟨_, same⟩ := backquote_of_quoted read quoted
      obtain ⟨rfl, _⟩ := List.cons_eq_cons.mp same
      cases starts
  | word _ form =>
      obtain ⟨_, _, same, head⟩ := form.starts
      obtain ⟨rfl, _⟩ := List.cons_eq_cons.mp same
      rw [isNumberStart_of_isWordStart head] at starts
      cases starts

/-- The source is one number with nothing but trivia around it. -/
def SpellsNumber (source : Text) (value : Literal) : Prop :=
  ∃ before lexeme after, source = before ++ (lexeme ++ after) ∧ Trivia (lexeme ++ after) before ∧
    Trivia [] after ∧ Number.Spelling lexeme value

/-- What is read behind the trivia of a source and in front of trivia up to its end. -/
theorem spellsNumber_of_read {source start rest : Text} {value : Literal}
    (skipped : skipTrivia source = .ok start) (read : Number.literal start = .ok (value, rest))
    (ended : skipTrivia rest = .ok []) : SpellsNumber source value := by
  obtain ⟨lexeme, rfl, form, _⟩ := Number.literal_eq_ok_iff.mp read
  obtain ⟨_, before, rfl, triviaBefore⟩ := skipTrivia_eq_ok_iff.mp skipped
  obtain ⟨_, after, rfl, triviaAfter⟩ := skipTrivia_eq_ok_iff.mp ended
  rw [List.append_nil] at triviaBefore ⊢
  exact ⟨before, lexeme, after, rfl, triviaBefore, triviaAfter, Number.lexeme_iff_spelling.mp form⟩

/-- A source that is read as an integer or a float spells it. -/
theorem spellsNumber_of_parseExpression {source : Text} {value : Literal}
    (parsed : parseExpression source = .ok (.literal value)) (number : value.isNumber = true) :
    SpellsNumber source value := by
  obtain ⟨rest, read, ended⟩ := whole_eq_ok_iff.mp (parseExpression_eq_ok_iff.mp parsed)
  obtain ⟨start, skipped, form⟩ := expression_eq_ok_iff.mp read
  exact spellsNumber_of_read skipped (form.number_of_literal number) ended

/-- A source that spells a number between trivia is read as that number. -/
theorem SpellsNumber.read {source : Text} {value : Literal} (spells : SpellsNumber source value) :
    parseExpression source = .ok (.literal value) := by
  obtain ⟨before, lexeme, after, rfl, triviaBefore, triviaAfter, spelling⟩ := spells
  have form := Number.lexeme_iff_spelling.mpr spelling
  have solid := (skipTrivia_eq_ok_iff.mp (form.solid after)).1
  have skipped := skipTrivia_eq_ok_iff.mpr ⟨solid, before, rfl, triviaBefore⟩
  have read := Number.literal_eq_ok_iff.mpr
    ⟨lexeme, rfl, form, triviaAfter.endsRun fun _ => Number.isNumberPart_solid⟩
  have ended := skipTrivia_eq_ok_iff.mpr ⟨rfl, after, (List.append_nil after).symm, triviaAfter⟩
  exact parseExpression_eq_ok_iff.mpr
    (whole_eq_ok_iff.mpr ⟨after, expression_eq_ok_iff.mpr ⟨_, skipped, .number read⟩, ended⟩)

end Grammar

open Grammar

/-- A source is read as an integer or a float exactly when it is the spelling of one between trivia;
every other source that starts with a digit, a point or a sign behind its trivia is malformed. -/
theorem parseExpression_number_iff (source : Text) :
    (∀ value, parseExpression source = .ok (.literal value) ∧ value.isNumber = true ↔
      SpellsNumber source value) ∧
    (∀ letter rest, skipTrivia source = .ok (letter :: rest) → isNumberStart letter = true →
      (∀ value, ¬ SpellsNumber source value) →
      ∃ location failure, parseExpression source = .error (.malformed .literal location failure)) := by
  constructor
  · intro value
    constructor
    · rintro ⟨parsed, number⟩
      exact spellsNumber_of_parseExpression parsed number
    · intro spells
      obtain ⟨_, _, _, _, _, _, spelling⟩ := id spells
      exact ⟨spells.read, spelling.isNumber⟩
  · intro letter rest skipped starts noNumber
    cases parsed : parseExpression source with
    | error error =>
        obtain ⟨failure, _, rfl⟩ := mapError_eq_error_iff.mp parsed
        exact ⟨_, failure, rfl⟩
    | ok value =>
        obtain ⟨left, read, ended⟩ := whole_eq_ok_iff.mp (parseExpression_eq_ok_iff.mp parsed)
        obtain ⟨start, found, form⟩ := expression_eq_ok_iff.mp read
        obtain rfl := Except.ok.inj (skipped.symm.trans found)
        obtain ⟨number, _, read⟩ := form.number_of_head starts
        exact absurd (spellsNumber_of_read skipped read ended) (noNumber number)

/-- A hexadecimal integer in front of a comment, and a number that runs into a second point. -/
theorem parseExpression_number_iff_hexadecimal :
    (parseExpression " -0xfF# end".toList = .ok (.literal (.integer "-fF".toList 16)) ∧
      SpellsNumber " -0xfF# end".toList (.integer "-fF".toList 16)) ∧
    (skipTrivia "--\n+1..2".toList = .ok "+1..2".toList ∧
      ∃ location failure,
        parseExpression "--\n+1..2".toList = .error (.malformed .literal location failure)) := by
  have integer : parseExpression " -0xfF# end".toList = .ok (.literal (.integer "-fF".toList 16)) :=
    eq_ok_of_toOption (by decide +kernel)
  have skipped : skipTrivia "--\n+1..2".toList = .ok "+1..2".toList :=
    eq_ok_of_toOption (by decide +kernel)
  have refused : (parseExpression "--\n+1..2".toList).toOption = none := by decide +kernel
  refine ⟨⟨integer, ((parseExpression_number_iff _).1 _).mp ⟨integer, rfl⟩⟩, skipped, ?_⟩
  refine (parseExpression_number_iff _).2 _ _ skipped (by decide) fun value spells => ?_
  rw [(((parseExpression_number_iff _).1 value).mpr spells).1] at refused
  cases refused

end ParamCodec
