import ParamCodec.Proofs.Grammar.TypeRendering
import ParamCodec.Proofs.Text.Digits

namespace ParamCodec

namespace TypeFragment

theorem sql_named (name : Identifier) (length : Option TypeLength) :
    (named name length).sql = namedText name length := sql.eq_def _

theorem sql_bareArray : (array none).sql = "ARRAY".toList := sql.eq_def _

theorem sql_array (element : TypeFragment) :
    (array (some element)).sql = "ARRAY<".toList ++ element.sql ++ ['>'] := sql.eq_def _

theorem sql_struct (fields : List (FieldFragment TypeFragment)) :
    (struct fields).sql = "STRUCT<".toList ++ Text.commaSeparated (fieldTexts fields) ++ ['>'] :=
  sql.eq_def _

end TypeFragment

namespace Grammar

theorem type_skipsFirst : SkipsFirst type := skipsFirst_of_bind type_eq_typeWith

/-- Fields may stand behind trivia. -/
theorem structField_skipsFirst (type : Reader TypeFragment) : SkipsFirst (structField type) :=
  skipsFirst_of_bind fun _ => rfl

/-- A type in the angle brackets of an array. -/
theorem type_arrayText {text : Text} {element : TypeFragment}
    (embeds : Embeds EndsItem type text element) (more : Text) :
    type ("ARRAY<".toList ++ text ++ '>' :: more) = .ok (.array (some element), more) := by
  have closes : EndsItem ('>' :: more) := endsItem_cons more (by decide)
  obtain ⟨rest, read, skipped⟩ := embeds _ closes
  have keyword : afterKeyword? "ARRAY".toList ("ARRAY".toList ++ '<' :: (text ++ '>' :: more)) =
      some ('<' :: (text ++ '>' :: more)) :=
    afterKeyword?_append (by decide) (endsRun_cons _ (by decide))
  rw [List.append_assoc]
  refine type_eq_ok_iff.mpr ⟨_, skipTrivia_solid _ (by decide), .array keyword ?_⟩
  exact .present (skipTrivia_solid _ (by decide)) read (skipped.trans closes.skipTrivia)

/-- No field starts with the bracket that closes a struct. -/
theorem structField_close (type : Reader TypeFragment) (more : Text)
    (field : FieldFragment TypeFragment) (rest : Text) :
    structField type ('>' :: more) ≠ .ok (field, rest) := by
  intro read
  obtain ⟨start, skipped, form⟩ := structField_eq_ok_iff.mp read
  obtain rfl : '>' :: more = start :=
    Except.ok.inj ((skipTrivia_solid more (by decide)).symm.trans skipped)
  have noName (name : Identifier) (after : Text) : identifier ('>' :: more) ≠ .ok (name, after) :=
    fun first => nomatch first
  cases form with
  | composite starts _ => cases starts
  | named _ first _ _ _ => exact noName _ _ first
  | scalar _ first _ _ _ _ _ => exact noName _ _ first
  | bare _ first _ _ _ => exact noName _ _ first

/-- The members in the angle brackets of a struct type. -/
theorem fields_listed {gap : Text} {texts : List Text} {fields : List (FieldFragment TypeFragment)}
    (blank : ∀ source, structField type (gap ++ source) = structField type source)
    (embeds : List.Forall₂ (Embeds EndsItem (structField type)) texts fields) (more : Text) :
    ListedUntil (structField type) '>' (List.intercalate (',' :: gap) texts ++ '>' :: more) fields
      more := by
  have closeEnds : EndsItem ('>' :: more) := endsItem_cons more (by decide)
  exact ListedUntil.of_embeds (structField_skipsFirst type) blank (structField_close type)
    (fun text => endsItem_cons text (by decide)) closeEnds closeEnds.skipTrivia embeds

/-- Texts of fields between angle brackets are read as the struct of their fields. -/
theorem type_structText {gap : Text} {texts : List Text} {fields : List (FieldFragment TypeFragment)}
    (blank : ∀ source, structField type (gap ++ source) = structField type source)
    (embeds : List.Forall₂ (Embeds EndsItem (structField type)) texts fields) (more : Text) :
    type ("STRUCT<".toList ++ List.intercalate (',' :: gap) texts ++ '>' :: more) =
      .ok (.struct fields, more) := by
  have keyword : afterKeyword? "STRUCT".toList ("STRUCT".toList ++
      '<' :: (List.intercalate (',' :: gap) texts ++ '>' :: more)) =
      some ('<' :: (List.intercalate (',' :: gap) texts ++ '>' :: more)) :=
    afterKeyword?_append (by decide) (endsRun_cons _ (by decide))
  rw [List.append_assoc]
  apply type_eq_ok_iff.mpr
  exact ⟨_, skipTrivia_solid _ (by decide), .struct keyword (skipTrivia_solid _ (by decide))
    (fields_listed blank embeds more)⟩

/-- A type starts with a word. -/
theorem TypeForm.startsWord {inner : Reader TypeFragment} {source rest : Text}
    {type : TypeFragment} (form : TypeForm inner source type rest) : startsWord source = true := by
  cases form with
  | array keyword _ => exact startsWord_of_keyword keyword
  | struct keyword _ _ => exact startsWord_of_keyword keyword
  | named named =>
      obtain ⟨name, after, read, _⟩ := named.unreserved
      exact startsWord_of_word read

/-- What ends an item starts no word. -/
theorem EndsItem.startsWord {text : Text} (ends : EndsItem text) : startsWord text = false := by
  cases text with
  | nil => rfl
  | cons letter text =>
      show Identifier.isWordStart letter = false
      exact none_of_mem (ends letter rfl) (by decide)

/-- What ends an item starts with no other letter than the marks. -/
theorem EndsItem.startsWith {text : Text} {letter : Char} (ends : EndsItem text)
    (other : letter ∉ [',', ']', ')', '>']) : startsWith letter text = false := by
  refine Bool.eq_false_iff.mpr fun starts => ?_
  obtain ⟨rest, rfl⟩ := startsWith_iff.mp starts
  exact other (ends letter rfl)

/-- A name that is quoted or differs from the composite keywords starts no composite type. -/
theorem startsComposite_name {name : Identifier} {source rest : Text}
    (read : identifier source = .ok (name, rest))
    (free : (name.quoted || differsFrom ["ARRAY".toList, "STRUCT".toList] name.name) = true) :
    startsComposite source = false := by
  cases quoted : name.quoted with
  | false =>
      rw [quoted, Bool.false_or] at free
      rw [startsComposite_eq (word_of_identifier read quoted), free, Bool.not_true]
  | true =>
      obtain ⟨rfl, _⟩ := identifier_eq_ok_iff.mp read
      obtain ⟨name, _⟩ := name
      cases quoted
      rfl

/-- A name in front of a type is a member of a struct type. -/
theorem embeds_namedField {name : Identifier} {text : Text} {fragment : TypeFragment}
    (free : name.namesField = true) (embeds : Embeds EndsItem type text fragment) :
    Embeds EndsItem (structField type) (name.sql ++ ' ' :: text) ⟨some name, some fragment⟩ := by
  intro more ends
  obtain ⟨rest, read, skipped⟩ := embeds more ends
  obtain ⟨start, skip, form⟩ := type_eq_ok_iff.mp read
  have again := type_eq_ok_iff.mpr ⟨start, skipTrivia_idem skip, form⟩
  rw [Identifier.namesField, Bool.and_eq_true] at free
  have first : identifier (name.sql ++ ' ' :: (text ++ more)) = .ok (name, ' ' :: (text ++ more)) :=
    identifier_eq_ok_iff.mpr ⟨rfl, free.1, fun _ => endsRun_cons _ (by decide)⟩
  have skipBlank : skipTrivia (' ' :: (text ++ more)) = .ok start :=
    (skip_blank _ (by decide)).trans skip
  rw [List.append_assoc]
  refine ⟨rest, structField_eq_ok_iff.mpr ⟨_, skipTrivia_name free.1 _, ?_⟩, skipped⟩
  exact .named (startsComposite_name first free.2) first skipBlank form.startsWord again

/-- A named type that stands alone is a keyword of types and starts no composite type. -/
theorem scalar_of_standsAlone {source name rest : Text} {length : Option TypeLength}
    (read : word source = .ok (name, rest)) (free : isReserved name = false)
    (alone : (TypeFragment.named ⟨name, false⟩ length).standsAlone = true) :
    startsComposite source = false ∧ isTypeKeyword name = true := by
  rw [isReserved_eq, Bool.not_eq_false', Bool.and_eq_true] at free
  rw [TypeFragment.standsAlone, Bool.not_eq_true'] at alone
  exact ⟨by rw [startsComposite_eq read, free.2, Bool.not_true],
    by rw [isTypeKeyword_eq, alone, Bool.and_false, Bool.not_false]⟩

/-- A type that can do without a name is a member of a struct type. -/
theorem embeds_positionalField {text : Text} {fragment : TypeFragment}
    (alone : fragment.standsAlone = true) (embeds : Embeds EndsItem type text fragment) :
    Embeds EndsItem (structField type) text ⟨none, some fragment⟩ := by
  intro more ends
  obtain ⟨rest, read, skipped⟩ := embeds more ends
  obtain ⟨start, skip, form⟩ := type_eq_ok_iff.mp read
  have again := type_eq_ok_iff.mpr ⟨start, skipTrivia_idem skip, form⟩
  refine ⟨rest, structField_eq_ok_iff.mpr ⟨start, skip, ?_⟩, skipped⟩
  cases form with
  | array keyword _ => exact .composite (by rw [startsComposite, keyword]; rfl) again
  | struct keyword _ _ =>
      exact .composite (by rw [startsComposite, keyword]; exact Bool.or_true _) again
  | named named =>
      cases named with
      | @plain name _ _ first free _ _ =>
          obtain ⟨starts, keyword⟩ := scalar_of_standsAlone first free alone
          exact .scalar starts (identifier_of_word first) (skipped.trans ends.skipTrivia)
            ends.startsWord rfl keyword again
      | @sized name _ _ _ _ _ _ first free opens _ _ _ =>
          obtain ⟨starts, keyword⟩ := scalar_of_standsAlone first free alone
          exact .scalar starts (identifier_of_word first) opens rfl rfl keyword again

/-- A name that is no type keyword is a member of a struct type. -/
theorem embeds_bareField {name : Identifier} (alone : name.standsAlone = true) :
    Embeds EndsItem (structField type) name.sql ⟨some name, none⟩ := by
  intro more ends
  rw [Identifier.standsAlone, Bool.and_eq_true] at alone
  have first : identifier (name.sql ++ more) = .ok (name, more) :=
    identifier_eq_ok_iff.mpr ⟨rfl, alone.1, fun _ => breaks_endsRun ends.breaks⟩
  refine ⟨more, structField_eq_ok_iff.mpr ⟨_, skipTrivia_name alone.1 _, ?_⟩, rfl⟩
  have free := alone.2
  rw [differsFrom_append] at free
  refine .bare (startsComposite_name first ?_) first ends.skipTrivia ends.startsWord ?_
  · revert free
    cases name.quoted <;> simp +contextual
  · rw [isTypeKeyword_eq, Bool.not_eq_false', ← Bool.or_eq_true]
    exact free

/-- A length is read from its own text. -/
theorem lengthForm_sql {length : TypeLength} (wellFormed : length.isWellFormed = true) (more : Text) :
    LengthForm (length.sql ++ ')' :: more) length (')' :: more) := by
  cases length with
  | maximum => exact .maximum (afterKeyword?_append (by decide) (endsRun_cons _ (by decide)))
  | fixed count =>
      have small : count < 2 ^ 64 := of_decide_eq_true wellFormed
      obtain ⟨digit, digits, same, isDigit⟩ := Text.decimal_head count
      have noKeyword : afterKeyword? "MAX".toList (Text.decimal count ++ ')' :: more) = none := by
        simp [same, afterKeyword?, word, isWordStart_of_isDigit isDigit]
      have form := LengthForm.fixed noKeyword rfl (same ▸ List.cons_ne_nil digit digits)
        (Text.decimal_isDigit count) (endsRun_cons more (by decide))
        (by rw [Text.decimalValue_decimal]; exact Nat.le_sub_one_of_lt small)
      rwa [Text.decimalValue_decimal] at form

/-- A length starts with no trivia. -/
theorem skipTrivia_length {length : TypeLength} (more : Text) :
    skipTrivia (length.sql ++ more) = .ok (length.sql ++ more) := by
  cases length with
  | maximum => exact skipTrivia_solid _ (by decide)
  | fixed count =>
      obtain ⟨digit, digits, same, isDigit⟩ := Text.decimal_head count
      rw [TypeLength.sql, same]
      exact skipTrivia_solid _ (isWordPart_solid (isWordPart_of_isDigit isDigit))

/-- The name of a type with its length is read from its own text. -/
theorem embeds_namedText {name : Text} {length : Option TypeLength}
    (wellFormed : (TypeFragment.named ⟨name, false⟩ length).isWellFormed = true) :
    Embeds EndsItem type (TypeFragment.namedText ⟨name, false⟩ length)
      (.named ⟨name, false⟩ length) := by
  intro more ends
  simp only [TypeFragment.isWellFormed, Bool.not_false, Bool.true_and, isTypeName,
    Bool.and_eq_true] at wellFormed
  obtain ⟨⟨isName, free⟩, sized⟩ := wellFormed
  have unreserved : isReserved name = false := by
    rw [isReserved_eq, ← differsFrom_append, Bool.not_eq_false']
    exact free
  have valid : Identifier.isValid ⟨name, false⟩ = true := isName
  cases length with
  | none =>
      have read : word (name ++ more) = .ok (name, more) :=
        word_eq_ok_iff.mpr ⟨rfl, isName, breaks_endsRun ends.breaks⟩
      refine ⟨more, type_eq_ok_iff.mpr ⟨_, skipTrivia_name valid more, .named ?_⟩, rfl⟩
      exact .plain read unreserved ends.skipTrivia (ends.startsWith (by decide))
  | some length =>
      have read : word (name ++ '(' :: (length.sql ++ ')' :: more)) =
          .ok (name, '(' :: (length.sql ++ ')' :: more)) :=
        word_eq_ok_iff.mpr ⟨rfl, isName, endsRun_cons _ (by decide)⟩
      have whole : TypeFragment.namedText ⟨name, false⟩ (some length) ++ more =
          name ++ '(' :: (length.sql ++ ')' :: more) := by
        simp [TypeFragment.namedText, sql_eq_name]
      rw [whole]
      refine ⟨more, type_eq_ok_iff.mpr ⟨_, skipTrivia_name valid _, .named ?_⟩, rfl⟩
      exact .sized read unreserved (skipTrivia_solid _ (by decide)) (skipTrivia_length _)
        (lengthForm_sql sized more) (skipTrivia_solid _ (by decide))

/-- An array without an element type is its keyword alone. -/
theorem type_bareArray {more : Text} (ends : EndsItem more) :
    type ("ARRAY".toList ++ more) = .ok (.array none, more) := by
  have keyword : afterKeyword? "ARRAY".toList ("ARRAY".toList ++ more) = some more :=
    afterKeyword?_append (by decide) (breaks_endsRun ends.breaks)
  refine type_eq_ok_iff.mpr ⟨_, skipTrivia_solid _ (by decide), .array keyword ?_⟩
  exact .absent ends.skipTrivia (ends.startsWith (by decide))

mutual

/-- A well-formed type is read from its own text. -/
theorem embeds_typeText (fragment : TypeFragment) (wellFormed : fragment.isWellFormed = true) :
    Embeds EndsItem type fragment.sql fragment := by
  match fragment with
  | .named ⟨name, quoted⟩ length =>
      cases quoted with
      | true => cases wellFormed
      | false =>
          rw [TypeFragment.sql_named]
          exact embeds_namedText wellFormed
  | .array none =>
      intro more ends
      rw [TypeFragment.sql_bareArray]
      exact ⟨more, type_bareArray ends, rfl⟩
  | .array (some element) =>
      intro more ends
      rw [TypeFragment.isWellFormed] at wellFormed
      rw [TypeFragment.sql_array, List.append_assoc]
      exact ⟨more, type_arrayText (embeds_typeText element wellFormed) more, rfl⟩
  | .struct fields =>
      intro more ends
      rw [TypeFragment.isWellFormed] at wellFormed
      rw [TypeFragment.sql_struct, List.append_assoc]
      have blank := (structField_skipsFirst type).blank
      exact ⟨more, type_structText blank (embeds_fieldTexts fields wellFormed) more, rfl⟩

/-- Well-formed members of a struct type are read from their own texts. -/
theorem embeds_fieldTexts (fields : List (FieldFragment TypeFragment))
    (wellFormed : TypeFragment.areWellFormed fields = true) :
    List.Forall₂ (Embeds EndsItem (structField type)) (TypeFragment.fieldTexts fields) fields := by
  match fields with
  | [] => exact .nil
  | ⟨some name, some element⟩ :: rest =>
      simp only [TypeFragment.areWellFormed, Bool.and_eq_true] at wellFormed
      exact .cons (embeds_namedField wellFormed.1.1 (embeds_typeText element wellFormed.1.2))
        (embeds_fieldTexts rest wellFormed.2)
  | ⟨none, some element⟩ :: rest =>
      simp only [TypeFragment.areWellFormed, Bool.and_eq_true] at wellFormed
      exact .cons (embeds_positionalField wellFormed.1.1 (embeds_typeText element wellFormed.1.2))
        (embeds_fieldTexts rest wellFormed.2)
  | ⟨some name, none⟩ :: rest =>
      simp only [TypeFragment.areWellFormed, Bool.and_eq_true] at wellFormed
      exact .cons (embeds_bareField wellFormed.1) (embeds_fieldTexts rest wellFormed.2)
  | ⟨none, none⟩ :: rest => cases wellFormed

end

end Grammar

end ParamCodec
