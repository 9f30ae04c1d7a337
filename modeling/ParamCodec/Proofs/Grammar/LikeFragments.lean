import ParamCodec.Proofs.Grammar.ExpressionDepth
import ParamCodec.Proofs.Grammar.Likeness

namespace ParamCodec.Grammar.Likeness

variable {like : Likeness}

/-- Members of a struct type whose names and types are alike. -/
def Fields (like : Likeness) (types : TypeFragment → TypeFragment → Prop)
    (field other : FieldFragment TypeFragment) : Prop :=
  Option.Rel like.Names field.name other.name ∧ Option.Rel types field.type other.type

/-- Types that consist of alike parts are alike. -/
structure Builds (like : Likeness) (types : TypeFragment → TypeFragment → Prop) : Prop where
  named : ∀ name other length, like.words name other →
    types (.named ⟨name, false⟩ length) (.named ⟨other, false⟩ length)
  array : ∀ element other, Option.Rel types element other → types (.array element) (.array other)
  struct : ∀ fields others, List.Forall₂ (like.Fields types) fields others →
    types (.struct fields) (.struct others)

/-- Alike words are the same keywords. -/
theorem isAmong_of_words (keeps : like.KeepsWords) {name other : Text} (same : like.words name other)
    (keywords : List Text) : isAmong keywords name = isAmong keywords other := by
  rw [isAmong, isAmong, keeps.keyword _ _ same]

section Types

variable (keeps : like.KeepsWords) {types : TypeFragment → TypeFragment → Prop}

include keeps

/-- Alike sources go on alike behind a keyword. -/
theorem KeepsWords.afterKeyword (keyword : Text) {source other : Text}
    (same : like.texts source other) :
    Option.Rel like.texts (afterKeyword? keyword source) (afterKeyword? keyword other) := by
  have words := keeps.word _ _ same
  rw [afterKeyword?, afterKeyword?]
  generalize Grammar.word source = first at words ⊢
  generalize Grammar.word other = second at words ⊢
  cases words with
  | error _ => exact .none
  | ok alike =>
      obtain ⟨words, same⟩ := alike
      dsimp only
      rw [keeps.keyword _ _ words]
      split
      · exact .some same
      · exact .none

/-- Alike sources both start a composite type or both do not. -/
theorem KeepsWords.startsComposite {source other : Text} (same : like.texts source other) :
    startsComposite source = startsComposite other := by
  have kept (keyword : Text) :
      (afterKeyword? keyword source).isSome = (afterKeyword? keyword other).isSome := by
    have alike := keeps.afterKeyword keyword same
    revert alike
    cases afterKeyword? keyword source <;> cases afterKeyword? keyword other <;> rintro ⟨⟩ <;> rfl
  rw [Grammar.startsComposite, kept, kept]
  rfl

/-- Named types are read alike. -/
theorem Builds.namedType (builds : like.Builds types) : like.Reads types namedType := by
  intro source other same
  refine keeps.word.bind same fun name found after behind words sameAfter => ?_
  have reserved := isAmong_of_words keeps words reservedWords
  refine .choose reserved (fun _ => .error (keeps.fails _ _ _ same)) (fun _ => ?_)
  refine keeps.behindTrivia sameAfter fun rest left same => ?_
  refine .choose (keeps.startsWith _ _ same '(' (by decide)) (fun opens => ?_) (fun _ => ?_)
  · refine keeps.behindTrivia (keeps.tail _ _ same '(' (by decide) opens) fun rest left same => ?_
    refine keeps.length.bind same ?_
    rintro length _ rest left rfl same
    refine keeps.behindTrivia same fun rest left same => ?_
    refine (keeps.token (by decide) same).bind fun rest left same => ?_
    exact .ok ⟨builds.named _ _ _ words, same⟩
  · exact .ok ⟨builds.named _ _ _ words, sameAfter⟩

section Nested

variable {inner : Reader TypeFragment} (reads : like.Reads types inner)

include reads

/-- The parts between angle brackets are read alike when the types inside are. -/
theorem Reads.angleType : like.Reads (Option.Rel types) (angleType inner) := by
  intro source other same
  refine keeps.behindTrivia same fun rest left sameRest => ?_
  refine .choose (keeps.startsWith _ _ sameRest '<' (by decide)) (fun opens => ?_)
    (fun _ => .ok ⟨.none, same⟩)
  refine reads.bind (keeps.tail _ _ sameRest '<' (by decide) opens) ?_
  intro element found rest left alike same
  refine keeps.behindTrivia same fun rest left same => ?_
  exact (keeps.token (by decide) same).bind fun rest left same => .ok ⟨.some alike, same⟩

/-- Fields are read alike when their types are. -/
theorem Reads.structField : like.Reads (like.Fields types) (structField inner) := by
  intro source other same
  refine keeps.behindTrivia same fun start begin same => ?_
  refine .choose (keeps.startsComposite same) (fun _ => ?_) (fun _ => ?_)
  · refine reads.bind same fun positional found rest left alike same => ?_
    exact .ok ⟨⟨.none, .some alike⟩, same⟩
  · refine keeps.identifier.bind same fun name label after behind names sameAfter => ?_
    refine keeps.behindTrivia sameAfter fun rest left sameRest => ?_
    refine .choose (keeps.startsWord _ _ sameRest) (fun _ => ?_) (fun _ => ?_)
    · refine reads.bind sameRest fun named found rest left alike same => ?_
      exact .ok ⟨⟨.some names, .some alike⟩, same⟩
    · have keyword : (!name.quoted && isTypeKeyword name.name) =
          (!label.quoted && isTypeKeyword label.name) := by
        rw [isTypeKeyword, isTypeKeyword, isAmong_of_words keeps names.2, names.1]
      refine .choose keyword (fun _ => ?_) (fun _ => .ok ⟨⟨.some names, .none⟩, sameRest⟩)
      refine reads.bind same fun positional found rest left alike same => ?_
      exact .ok ⟨⟨.none, .some alike⟩, same⟩

/-- The fields of a struct are read alike when their types are. -/
theorem Reads.structFields (consumes : Consumes inner) :
    like.Reads (List.Forall₂ (like.Fields types)) (structFields inner) := by
  intro source other same
  refine (keeps.token (by decide) same).bind fun rest left same => ?_
  exact (reads.structField keeps).listUntil keeps (by decide) (structField_consumes consumes) _ _ same

/-- Types are read alike when the types inside them are. -/
theorem Reads.typeWith (builds : like.Builds types) (consumes : Consumes inner) :
    like.Reads types (typeWith inner) := by
  intro source other same
  refine keeps.behindTrivia same fun start begin same => ?_
  have array := keeps.afterKeyword "ARRAY".toList same
  have struct := keeps.afterKeyword "STRUCT".toList same
  generalize afterKeyword? "ARRAY".toList start = first at array ⊢
  generalize afterKeyword? "ARRAY".toList begin = second at array ⊢
  generalize afterKeyword? "STRUCT".toList start = third at struct ⊢
  generalize afterKeyword? "STRUCT".toList begin = fourth at struct ⊢
  cases array with
  | some same =>
      refine (reads.angleType keeps).bind same fun element found rest left alike same => ?_
      exact .ok ⟨builds.array _ _ alike, same⟩
  | none =>
      cases struct with
      | some same =>
          refine keeps.behindTrivia same fun rest left same => ?_
          refine (reads.structFields keeps consumes).bind same ?_
          exact fun fields found rest left alikes same => .ok ⟨builds.struct _ _ alikes, same⟩
      | none => exact builds.namedType keeps _ _ same

end Nested

/-- Alike sources are read as alike types. -/
theorem KeepsWords.type (builds : like.Builds types) : like.Reads types type :=
  Reads.nested type_nests (fun _ _ same => .error (keeps.fails _ _ _ same))
    fun _ consumes reads => reads.typeWith keeps builds consumes

end Types

end ParamCodec.Grammar.Likeness
