import ParamCodec.Proofs.Grammar.ExpressionDepth

namespace ParamCodec.Grammar

variable {α : Type}

/-- The text starts with nothing that the fragment in front of it could go on with. -/
structure EndsFragment (text : Text) : Prop where
  noMark : ∀ mark ∈ ['(', '<', '.'], startsWith mark text = false
  noLiteral : Quoted.startsLiteral text = false

/-- Text that does not change how the fragment in front of the rest was read. -/
structure Continues (rest more : Text) : Prop where
  breaks : Breaks more
  follows : skipTrivia rest = .ok [] →
    ∃ start, skipTrivia (rest ++ more) = .ok start ∧ EndsFragment start

/-- Whatever one reader reads is read by the other with any further text behind it. -/
def Extends (reader other : Reader α) : Prop :=
  ∀ source value rest, reader source = .ok (value, rest) →
    ∀ more, Continues rest more → other (source ++ more) = .ok (value, rest ++ more)

/-- The same for what stands inside brackets, where more than trivia is left. -/
def ExtendsInside (reader other : Reader α) : Prop :=
  ∀ source value rest letter next, reader source = .ok (value, rest) →
    skipTrivia rest = .ok (letter :: next) →
    ∀ more, Breaks more → other (source ++ more) = .ok (value, rest ++ more)

/-- Where more than trivia is left, text that breaks words changes nothing. -/
theorem continues_of_stands {rest next more : Text} {letter : Char}
    (skipped : skipTrivia rest = .ok (letter :: next)) (breaks : Breaks more) :
    Continues rest more := by
  refine ⟨breaks, fun empty => ?_⟩
  cases skipped.symm.trans empty

/-- A reader that extends another one also extends it inside brackets. -/
theorem Extends.inside {reader other : Reader α} (extendsTo : Extends reader other) :
    ExtendsInside reader other := by
  intro source value rest letter next read skipped more breaks
  exact extendsTo source value rest read more (continues_of_stands skipped breaks)

/-- The first letter of a text that is not empty is not changed by what follows. -/
theorem startsWith_append {mark : Char} {text : Text} (more : Text) (stands : text ≠ []) :
    startsWith mark (text ++ more) = startsWith mark text := by
  obtain ⟨letter, text, rfl⟩ := List.exists_cons_of_ne_nil stands
  rfl

/-- A fragment sees the same marks behind a rest when more text follows it. -/
theorem Continues.skip {rest more next : Text} (continues : Continues rest more)
    (skipped : skipTrivia rest = .ok next) :
    ∃ start, skipTrivia (rest ++ more) = .ok start ∧
      (∀ mark ∈ ['(', '<', '.'], startsWith mark next = false → startsWith mark start = false) ∧
      (Quoted.startsLiteral next = false → Quoted.startsLiteral start = false) := by
  by_cases stands : next = []
  · rw [stands] at skipped
    obtain ⟨start, skip, ends⟩ := continues.follows skipped
    exact ⟨start, skip, fun mark member _ => ends.noMark mark member, fun _ => ends.noLiteral⟩
  · refine ⟨next ++ more, skipTrivia_append skipped stands continues.breaks, ?_, ?_⟩
    · intro mark _ ends
      rwa [startsWith_append more stands]
    · intro noLiteral
      rwa [Quoted.startsLiteral_append continues.breaks]

/-- A word is read as before when text that breaks words follows. -/
theorem word_append {source name rest more : Text} (read : word source = .ok (name, rest))
    (breaks : Breaks more) : word (source ++ more) = .ok (name, rest ++ more) := by
  obtain ⟨rfl, isName, ends⟩ := word_eq_ok_iff.mp read
  rw [List.append_assoc]
  exact word_eq_ok_iff.mpr ⟨rfl, isName, ends.append (breaks_endsRun breaks)⟩

/-- A name is read as before when text that breaks words follows. -/
theorem identifier_append {source rest more : Text} {name : Identifier}
    (read : identifier source = .ok (name, rest)) (breaks : Breaks more) :
    identifier (source ++ more) = .ok (name, rest ++ more) := by
  obtain ⟨rfl, valid, ends⟩ := identifier_eq_ok_iff.mp read
  rw [List.append_assoc]
  exact identifier_eq_ok_iff.mpr
    ⟨rfl, valid, fun plain => (ends plain).append (breaks_endsRun breaks)⟩

/-- Text that breaks words does not change whether a word stands in front of it. -/
theorem startsWord_append {source more : Text} (breaks : Breaks more) :
    startsWord (source ++ more) = startsWord source := by
  cases source with
  | cons letter source => rfl
  | nil =>
      cases more with
      | nil => rfl
      | cons letter more =>
          show Identifier.isWordStart letter = false
          refine Bool.eq_false_iff.mpr fun starts => ?_
          have ends := breaks_endsRun breaks letter rfl
          rw [isWordPart_of_isWordStart starts] at ends
          cases ends

/-- Where a word starts, a word is read. -/
theorem word_of_startsWord {source : Text} (starts : startsWord source = true) :
    ∃ name rest, word source = .ok (name, rest) := by
  cases source with
  | nil => cases starts
  | cons letter source =>
      have start : Identifier.isWordStart letter = true := starts
      exact ⟨_, _, by rw [word, if_pos start]⟩

/-- A break in front of further text leaves the first word of a source as it is. -/
theorem afterKeyword?_more {keyword source more : Text} (breaks : Breaks more) :
    afterKeyword? keyword (source ++ more) = (afterKeyword? keyword source).map (· ++ more) := by
  cases read : word source with
  | ok pair =>
      obtain ⟨name, rest⟩ := pair
      rw [afterKeyword?, word_append read breaks, afterKeyword?, read]
      dsimp only
      split <;> rfl
  | error failure =>
      have none : afterKeyword? keyword source = none := by rw [afterKeyword?, read]
      rw [none]
      cases found : word (source ++ more) with
      | error other => rw [afterKeyword?, found]; rfl
      | ok pair =>
          have starts := startsWord_of_word found
          rw [startsWord_append breaks] at starts
          obtain ⟨name, rest, again⟩ := word_of_startsWord starts
          cases read.symm.trans again

/-- A keyword is found as before when text that breaks words follows. -/
theorem afterKeyword?_more_some {keyword source rest more : Text}
    (found : afterKeyword? keyword source = some rest) (breaks : Breaks more) :
    afterKeyword? keyword (source ++ more) = some (rest ++ more) := by
  rw [afterKeyword?_more breaks, found]
  rfl

/-- A keyword is missing as before when text that breaks words follows. -/
theorem afterKeyword?_more_none {keyword source more : Text}
    (none : afterKeyword? keyword source = none) (breaks : Breaks more) :
    afterKeyword? keyword (source ++ more) = .none := by
  rw [afterKeyword?_more breaks, none]
  rfl

/-- Text that breaks words does not change whether a composite type stands in front of it. -/
theorem startsComposite_append {source more : Text} (breaks : Breaks more) :
    startsComposite (source ++ more) = startsComposite source := by
  simp only [startsComposite, afterKeyword?_more breaks, Option.isSome_map]

/-- What breaks words also ends digits. -/
theorem breaks_endsDigits {more : Text} (breaks : Breaks more) : EndsRun Char.isDigit more :=
  endsRun_of_imp (breaks_endsRun breaks) fun _ digit => isWordPart_of_isDigit digit

/-- A length is not empty. -/
theorem LengthForm.stands {source rest : Text} {length : TypeLength}
    (form : LengthForm source length rest) : source ≠ [] := by
  cases form with
  | maximum keyword =>
      rintro rfl
      cases keyword
  | fixed _ whole stands _ _ _ => simp [whole, stands]

/-- A length stays one when text that breaks words follows. -/
theorem LengthForm.append {source rest more : Text} {length : TypeLength}
    (form : LengthForm source length rest) (breaks : Breaks more) :
    LengthForm (source ++ more) length (rest ++ more) := by
  cases form with
  | maximum keyword => exact .maximum (afterKeyword?_more_some keyword breaks)
  | @fixed digits _ noKeyword whole stands all ends small =>
      refine .fixed (afterKeyword?_more_none noKeyword breaks) ?_ stands all
        (ends.append (breaks_endsDigits breaks)) small
      rw [whole, List.append_assoc]

/-- A named type stays one when text follows that it does not go on with. -/
theorem NamedForm.append {source rest more : Text} {type : TypeFragment}
    (form : NamedForm source type rest) (continues : Continues rest more) :
    NamedForm (source ++ more) type (rest ++ more) := by
  have breaks := continues.breaks
  cases form with
  | plain read free skipped ends =>
      obtain ⟨start, skip, marks, _⟩ := continues.skip skipped
      exact .plain (word_append read breaks) free skip (marks '(' (by decide) ends)
  | sized read free opens skipped sized closes =>
      exact .sized (word_append read breaks) free
        (skipTrivia_append opens (List.cons_ne_nil _ _) breaks)
        (skipTrivia_append skipped sized.stands breaks) (sized.append breaks)
        (skipTrivia_append closes (List.cons_ne_nil _ _) breaks)

/-- The part between angle brackets stays what it is when text follows that it does not go on with. -/
theorem AngleForm.append {type other : Reader TypeFragment} (extendsTo : ExtendsInside type other)
    {source rest more : Text} {element : Option TypeFragment}
    (form : AngleForm type source element rest) (continues : Continues rest more) :
    AngleForm other (source ++ more) element (rest ++ more) := by
  have breaks := continues.breaks
  cases form with
  | absent skipped ends =>
      obtain ⟨start, skip, marks, _⟩ := continues.skip skipped
      exact .absent skip (marks '<' (by decide) ends)
  | present opens read closes =>
      exact .present (skipTrivia_append opens (List.cons_ne_nil _ _) breaks)
        (extendsTo _ _ _ _ _ read closes more breaks)
        (skipTrivia_append closes (List.cons_ne_nil _ _) breaks)

/-- Items between commas stay what they are when text that breaks words follows. -/
theorem Listed.append {item other : Reader α} {close : Char} (extendsTo : ExtendsInside item other)
    {source rest more : Text} {values : List α} (listed : Listed item close source values rest)
    (breaks : Breaks more) : Listed other close (source ++ more) values (rest ++ more) := by
  induction listed with
  | last first closes =>
      exact .last (extendsTo _ _ _ _ _ first closes more breaks)
        (skipTrivia_append closes (List.cons_ne_nil _ _) breaks)
  | more first comma _ ih =>
      exact .more (extendsTo _ _ _ _ _ first comma more breaks)
        (skipTrivia_append comma (List.cons_ne_nil _ _) breaks) ih

/-- A list between commas is not empty. -/
theorem Listed.stands {item : Reader α} {close : Char} {source rest : Text} {values : List α}
    (consumes : Consumes item) (listed : Listed item close source values rest) : source ≠ [] := by
  cases listed with
  | last first _ => exact consumes.stands first
  | more first _ _ => exact consumes.stands first

/-- A list stays what it is when text that breaks words follows its closing letter. -/
theorem ListedUntil.append {item other : Reader α} {close : Char} (consumes : Consumes item)
    (extendsTo : ExtendsInside item other) {source rest more : Text} {values : List α}
    (listed : ListedUntil item close source values rest) (breaks : Breaks more) :
    ListedUntil other close (source ++ more) values (rest ++ more) := by
  cases listed with
  | none closes => exact .none (skipTrivia_append closes (List.cons_ne_nil _ _) breaks)
  | some skipped opens listed =>
      have stands := listed.stands consumes
      refine .some (skipTrivia_append skipped stands breaks) ?_ (listed.append extendsTo breaks)
      rwa [startsWith_append more stands]

theorem breaks_nil : Breaks [] := fun _ found => nomatch found

/-- A text that starts with a word is not empty. -/
theorem stands_of_startsWord {text : Text} (starts : startsWord text = true) : text ≠ [] := by
  rintro rfl
  cases starts

/-- When more than trivia is left behind a scalar type, more than trivia follows its name. -/
theorem stands_behind_name {source after next rest left : Text} {letter : Char} {name : Identifier}
    {positional : TypeFragment} (solid : skipTrivia source = .ok source)
    (starts : startsComposite source = false) (first : identifier source = .ok (name, after))
    (plain : name.quoted = false) (skipped : skipTrivia after = .ok next)
    (read : type source = .ok (positional, rest)) (stands : skipTrivia rest = .ok (letter :: left)) :
    next ≠ [] := by
  obtain ⟨start, skip, form⟩ := type_eq_ok_iff.mp read
  obtain rfl : source = start := Except.ok.inj (solid.symm.trans skip)
  have head := word_of_identifier first plain
  rintro rfl
  cases form with
  | array keyword _ =>
      rw [startsComposite, keyword] at starts
      cases starts
  | struct keyword _ _ =>
      rw [startsComposite, keyword, Option.isSome_some, Bool.or_true] at starts
      cases starts
  | named named =>
      cases named with
      | plain again _ _ _ =>
          obtain ⟨_, rfl⟩ := Prod.mk.inj (Except.ok.inj (head.symm.trans again))
          cases skipped.symm.trans stands
      | sized again _ opens _ _ _ =>
          obtain ⟨_, rfl⟩ := Prod.mk.inj (Except.ok.inj (head.symm.trans again))
          cases skipped.symm.trans opens

/-- A member of a struct type is read alike when it is followed by more of the struct. -/
theorem structField_extends {inner : Reader TypeFragment} (consumes : Consumes inner)
    (extendsTo : Extends inner type) : ExtendsInside (structField inner) (structField type) := by
  intro source field rest letter left read stands more breaks
  obtain ⟨start, skipped, form⟩ := structField_eq_ok_iff.mp read
  have inside := extendsTo.inside
  have solid := skipTrivia_idem skipped
  have startStands : start ≠ [] := by
    cases form with
    | composite _ first => exact consumes.stands first
    | named _ first _ _ _ => exact identifier_consumes.stands first
    | scalar _ first _ _ _ _ _ => exact identifier_consumes.stands first
    | bare _ first _ _ _ => exact identifier_consumes.stands first
  refine structField_eq_ok_iff.mpr ⟨start ++ more, skipTrivia_append skipped startStands breaks, ?_⟩
  cases form with
  | composite starts first =>
      apply FieldForm.composite
      · rwa [startsComposite_append breaks]
      · exact inside _ _ _ _ _ first stands more breaks
  | named starts first skip goesOn second =>
      have nextStands := stands_of_startsWord goesOn
      apply FieldForm.named
      · rwa [startsComposite_append breaks]
      · exact identifier_append first breaks
      · exact skipTrivia_append skip nextStands breaks
      · rwa [startsWord_append breaks]
      · exact inside _ _ _ _ _ second stands more breaks
  | scalar starts first skip ends plain keyword second =>
      -- The inner reader is the reader of types here, which shows what stands behind the name.
      have same := inside _ _ _ _ _ second stands [] breaks_nil
      rw [List.append_nil, List.append_nil] at same
      have nextStands := stands_behind_name solid starts first plain skip same stands
      apply FieldForm.scalar _ (identifier_append first breaks)
        (skipTrivia_append skip nextStands breaks) _ plain keyword
      · exact inside _ _ _ _ _ second stands more breaks
      · rwa [startsComposite_append breaks]
      · rwa [startsWord_append breaks]
  | bare starts first skip ends free =>
      have restStands : rest ≠ [] := by
        rintro rfl
        cases stands
      apply FieldForm.bare _ (identifier_append first breaks)
        (skipTrivia_append skip restStands breaks) _ free
      · rwa [startsComposite_append breaks]
      · rwa [startsWord_append breaks]

/-- A type stays what it is when text follows that it does not go on with. -/
theorem TypeForm.append {inner : Reader TypeFragment} (consumes : Consumes inner)
    (extendsTo : Extends inner type) {source rest more : Text} {fragment : TypeFragment}
    (form : TypeForm inner source fragment rest) (continues : Continues rest more) :
    TypeForm type (source ++ more) fragment (rest ++ more) := by
  have breaks := continues.breaks
  cases form with
  | array keyword angle =>
      exact .array (afterKeyword?_more_some keyword breaks) (angle.append extendsTo.inside continues)
  | struct keyword opens listed =>
      apply TypeForm.struct (afterKeyword?_more_some keyword breaks)
      · exact skipTrivia_append opens (List.cons_ne_nil _ _) breaks
      · exact listed.append (structField_consumes consumes) (structField_extends consumes extendsTo) breaks
  | named named => exact .named (named.append continues)

/-- A type is read alike whatever text follows that does not continue it. -/
theorem type_extends : Extends type type := by
  intro source fragment rest read
  refine type_induction (motive := fun source fragment rest => ∀ more, Continues rest more →
    type (source ++ more) = .ok (fragment, rest ++ more)) ?_ read
  intro inner consumes extendsTo source start fragment rest skipped form more continues
  have stands := (form.properEnd consumes).stands
  exact type_eq_ok_iff.mpr ⟨start ++ more, skipTrivia_append skipped stands continues.breaks,
    form.append consumes extendsTo continues⟩

/-- What a path does not go on with, none of its segments goes on with. -/
theorem SegmentsForm.continues {source rest more : Text} {segments : List Identifier}
    (form : SegmentsForm source segments rest) (continues : Continues rest more) :
    Continues source more := by
  cases form with
  | done _ _ => exact continues
  | more point _ _ _ => exact continues_of_stands point continues.breaks

/-- The segments of a path stay what they are when text follows that they do not go on with. -/
theorem SegmentsForm.append {source rest more : Text} {segments : List Identifier}
    (form : SegmentsForm source segments rest) (continues : Continues rest more) :
    SegmentsForm (source ++ more) segments (rest ++ more) := by
  have breaks := continues.breaks
  induction form with
  | done skipped ends =>
      obtain ⟨start, skip, marks, _⟩ := continues.skip skipped
      exact .done skip (marks '.' (by decide) ends)
  | more point skipped read _ ih =>
      have stands := identifier_consumes.stands read
      exact .more (skipTrivia_append point (List.cons_ne_nil _ _) breaks)
        (skipTrivia_append skipped stands breaks) (identifier_append read breaks) (ih continues)

/-- An argument is read alike when it is followed by more of the struct. -/
theorem argument_extends {inner : Reader Expression} (extendsTo : Extends inner expression) :
    ExtendsInside (argument inner) (argument expression) := by
  intro source value rest letter left read stands more breaks
  have inside := extendsTo.inside
  have restStands : rest ≠ [] := by
    rintro rfl
    cases stands
  apply argument_eq_ok_iff.mpr
  cases argument_eq_ok_iff.mp read with
  | plain first skipped ends =>
      obtain ⟨mark, tail, rfl⟩ := List.exists_cons_of_ne_nil restStands
      exact .plain (inside _ _ _ _ _ first skipped more breaks)
        (skipTrivia_append skipped restStands breaks) (afterKeyword?_more_none ends breaks)
  | labelled first skipped keyword skip name =>
      obtain ⟨mark, tail, rfl⟩ :=
        List.exists_cons_of_ne_nil (afterKeyword?_properEnd keyword).stands
      have labelStands := identifier_consumes.stands name
      apply ArgumentForm.labelled (inside _ _ _ _ _ first skipped more breaks)
      · exact skipTrivia_append skipped (List.cons_ne_nil _ _) breaks
      · exact afterKeyword?_more_some keyword breaks
      · exact skipTrivia_append skip labelStands breaks
      · exact identifier_append name breaks

/-- An expression that starts with a word stays what it is when text follows that it does not go on
with. -/
theorem WordForm.append {inner : Reader Expression} (consumes : Consumes inner)
    (extendsTo : Extends inner expression) {source rest more : Text} {value : Expression}
    (form : WordForm inner source value rest) (continues : Continues rest more) :
    WordForm expression (source ++ more) value (rest ++ more) := by
  have breaks := continues.breaks
  cases form with
  | constant read constant => exact .constant (word_append read breaks) constant
  | array keyword angle opens listed =>
      apply WordForm.array (afterKeyword?_more_some keyword breaks)
      · exact angle.append type_extends.inside (continues_of_stands opens breaks)
      · exact skipTrivia_append opens (List.cons_ne_nil _ _) breaks
      · exact listed.append consumes extendsTo.inside breaks
  | typed keyword opens declared opensValues listed =>
      apply WordForm.typed (afterKeyword?_more_some keyword breaks)
      · exact skipTrivia_append opens (List.cons_ne_nil _ _) breaks
      · exact declared.append (structField_consumes type_consumes)
          (structField_extends type_consumes type_extends) breaks
      · exact skipTrivia_append opensValues (List.cons_ne_nil _ _) breaks
      · exact listed.append consumes extendsTo.inside breaks
  | typeless keyword opens listed =>
      apply WordForm.typeless (afterKeyword?_more_some keyword breaks)
      · exact skipTrivia_append opens (List.cons_ne_nil _ _) breaks
      · exact listed.append (argument_consumes consumes) (argument_extends extendsTo) breaks
  | tagged read tagged skipped content =>
      exact .tagged (word_append read breaks) tagged
        (skipTrivia_append skipped (Quoted.literal_consumes.stands content) breaks)
        (Quoted.literal_append breaks content)
  | path read free untagged others =>
      apply WordForm.path (word_append read breaks) free _ (others.append continues)
      -- A tag without its string stays one, since no literal stands behind the path either.
      intro tagged
      obtain ⟨next, skipped, noLiteral⟩ := untagged tagged
      obtain ⟨start, skip, _, stays⟩ := (others.continues continues).skip skipped
      exact ⟨start, skip, stays noLiteral⟩

/-- An expression stays what it is when text follows that it does not go on with. -/
theorem ExpressionForm.append {inner : Reader Expression} (consumes : Consumes inner)
    (extendsTo : Extends inner expression) {source rest more : Text} {value : Expression}
    (form : ExpressionForm inner source value rest) (continues : Continues rest more) :
    ExpressionForm expression (source ++ more) value (rest ++ more) := by
  have breaks := continues.breaks
  cases form with
  | array listed => exact .array (listed.append consumes extendsTo.inside breaks)
  | parenthesized listed => exact .parenthesized (listed.append extendsTo.inside breaks)
  | tuple several listed => exact .tuple several (listed.append extendsTo.inside breaks)
  | parameter read => exact .parameter (identifier_append read breaks)
  | quoted read => exact .quoted (Quoted.literal_append breaks read)
  | number read => exact .number (Number.literal_append breaks read)
  | path read quoted others => exact .path (identifier_append read breaks) quoted (others.append continues)
  | word noLiteral form =>
      apply ExpressionForm.word _ (form.append consumes extendsTo continues)
      rwa [Quoted.startsLiteral_append breaks]

/-- An expression is read alike whatever text follows that does not continue it. -/
theorem expression_extends : Extends expression expression := by
  intro source value rest read
  refine expression_induction (motive := fun source value rest => ∀ more, Continues rest more →
    expression (source ++ more) = .ok (value, rest ++ more)) ?_ read
  intro inner consumes extendsTo source start value rest skipped form more continues
  have stands := (form.properEnd consumes).stands
  exact expression_eq_ok_iff.mpr ⟨start ++ more, skipTrivia_append skipped stands continues.breaks,
    form.append consumes extendsTo continues⟩

end ParamCodec.Grammar
