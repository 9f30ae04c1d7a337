import ParamCodec.Grammar.LiteralGrammar
import ParamCodec.Proofs.Grammar.Numbers
import ParamCodec.Proofs.Grammar.QuotedForms
import ParamCodec.Proofs.Grammar.TypeForms

namespace ParamCodec.Grammar

/-- Points and identifiers behind the first identifier of a path. -/
inductive SegmentsForm : Text → List Identifier → Text → Prop
  | done {source next : Text} (skipped : skipTrivia source = .ok next)
      (ends : startsWith '.' next = false) : SegmentsForm source [] source
  | more {source inside start after rest : Text} {segment : Identifier} {segments : List Identifier}
      (point : skipTrivia source = .ok ('.' :: inside)) (skipped : skipTrivia inside = .ok start)
      (read : identifier start = .ok (segment, after)) (others : SegmentsForm after segments rest) :
      SegmentsForm source (segment :: segments) rest

/-- A value of a struct literal, with its alias behind `AS` or without one. -/
inductive ArgumentForm (inner : Reader Expression) (source : Text) : Argument Expression → Text → Prop
  | plain {after rest : Text} {value : Expression} (read : inner source = .ok (value, after))
      (skipped : skipTrivia after = .ok rest) (ends : afterKeyword? "AS".toList rest = none) :
      ArgumentForm inner source ⟨value, none⟩ rest
  | labelled {after next behind start rest : Text} {value : Expression} {label : Identifier}
      (read : inner source = .ok (value, after)) (skipped : skipTrivia after = .ok next)
      (keyword : afterKeyword? "AS".toList next = some behind)
      (skippedLabel : skipTrivia behind = .ok start) (name : identifier start = .ok (label, rest)) :
      ArgumentForm inner source ⟨value, some label⟩ rest

/-- A literal that is a single word. -/
def constantLiteral? (name : Text) : Option Literal :=
  if Text.sameWord name "NULL".toList then some .null
  else if Text.sameWord name "TRUE".toList then some (.boolean true)
  else if Text.sameWord name "FALSE".toList then some (.boolean false)
  else none

/-- The forms of an expression whose source starts with a word. -/
inductive WordForm (inner : Reader Expression) (source : Text) : Expression → Text → Prop
  | constant {name rest : Text} {value : Literal} (read : word source = .ok (name, rest))
      (constant : constantLiteral? name = some value) : WordForm inner source (.literal value) rest
  | array {after next inside rest : Text} {element : Option TypeFragment} {items : List Expression}
      (keyword : afterKeyword? "ARRAY".toList source = some after)
      (angle : AngleForm type after element next) (opens : skipTrivia next = .ok ('[' :: inside))
      (listed : ListedUntil inner ']' inside items rest) :
      WordForm inner source (.array element items) rest
  | typed {after inside next valuesInside rest : Text} {fields : List (FieldFragment TypeFragment)}
      {values : List Expression} (keyword : afterKeyword? "STRUCT".toList source = some after)
      (opens : skipTrivia after = .ok ('<' :: inside))
      (declared : ListedUntil (structField type) '>' inside fields next)
      (opensValues : skipTrivia next = .ok ('(' :: valuesInside))
      (listed : ListedUntil inner ')' valuesInside values rest) :
      WordForm inner source (.typed fields values) rest
  | typeless {after inside rest : Text} {arguments : List (Argument Expression)}
      (keyword : afterKeyword? "STRUCT".toList source = some after)
      (opens : skipTrivia after = .ok ('(' :: inside))
      (listed : ListedUntil (argument inner) ')' inside arguments rest) :
      WordForm inner source (.typeless arguments) rest
  | tagged {name after next text rest : Text} {tag : Text → Literal}
      (read : word source = .ok (name, after)) (tagged : taggedLiteral? name = some tag)
      (skipped : skipTrivia after = .ok next)
      (content : Quoted.literal next = .ok (.string text, rest)) :
      WordForm inner source (.literal (tag text)) rest
  | path {name after rest : Text} {segments : List Identifier}
      (read : word source = .ok (name, after)) (free : isReserved name = false)
      (untagged : (taggedLiteral? name).isSome → ∃ next, skipTrivia after = .ok next ∧
        Quoted.startsLiteral next = false)
      (others : SegmentsForm after segments rest) :
      WordForm inner source (.path (⟨name, false⟩ :: segments)) rest

/-- The forms of an expression whose source starts with no trivia. -/
inductive ExpressionForm (inner : Reader Expression) : Text → Expression → Text → Prop
  | array {inside rest : Text} {items : List Expression}
      (listed : ListedUntil inner ']' inside items rest) :
      ExpressionForm inner ('[' :: inside) (.array none items) rest
  | parenthesized {inside rest : Text} {value : Expression}
      (listed : Listed inner ')' inside [value] rest) :
      ExpressionForm inner ('(' :: inside) (.parenthesized value) rest
  | tuple {inside rest : Text} {values : List Expression} (several : values.length ≠ 1)
      (listed : Listed inner ')' inside values rest) :
      ExpressionForm inner ('(' :: inside) (.tuple values) rest
  | parameter {inside rest : Text} {name : Identifier} (read : identifier inside = .ok (name, rest)) :
      ExpressionForm inner ('@' :: inside) (.parameter name) rest
  | quoted {source rest : Text} {value : Literal} (read : Quoted.literal source = .ok (value, rest)) :
      ExpressionForm inner source (.literal value) rest
  | number {source rest : Text} {value : Literal} (read : Number.literal source = .ok (value, rest)) :
      ExpressionForm inner source (.literal value) rest
  | path {source after rest : Text} {name : Identifier} {segments : List Identifier}
      (read : identifier source = .ok (name, after)) (quoted : name.quoted = true)
      (others : SegmentsForm after segments rest) :
      ExpressionForm inner source (.path (name :: segments)) rest
  | word {source rest : Text} {value : Expression} (noLiteral : Quoted.startsLiteral source = false)
      (form : WordForm inner source value rest) : ExpressionForm inner source value rest

/-- The segments that are read stand behind their points. -/
theorem pathSegments_sound {steps : Nat} {source rest : Text} {segments : List Identifier}
    (enough : source.length ≤ steps) (read : pathSegments steps source = .ok (segments, rest)) :
    SegmentsForm source segments rest := by
  induction steps generalizing source segments with
  | zero =>
      obtain rfl := List.length_eq_zero_iff.mp (Nat.le_zero.mp enough)
      cases read
      exact .done (show skipTrivia [] = .ok [] from rfl) rfl
  | succ steps ih =>
      rw [pathSegments] at read
      obtain ⟨next, skipped, read⟩ := bind_eq_ok_iff.mp read
      split at read
      · next point =>
        obtain ⟨inside, rfl⟩ := startsWith_iff.mp point
        obtain ⟨start, skip, read⟩ := bind_eq_ok_iff.mp read
        obtain ⟨⟨segment, after⟩, first, read⟩ := bind_eq_ok_iff.mp read
        obtain ⟨⟨others, left⟩, behind, same⟩ := bind_eq_ok_iff.mp read
        cases same
        have shorter := (identifier_consumes _ _ _ first).2
        have shortest := (skipTrivia_suffix skip).length_le
        have opened := (skipTrivia_properEnd skipped).2
        rw [List.tail_cons] at shortest
        exact .more skipped skip first (ih (by omega) behind)
      · next ends =>
        cases read
        exact .done skipped (Bool.eq_false_iff.mpr ends)

/-- Segments behind their points are read within as many steps as the source has letters. -/
theorem pathSegments_complete {source rest : Text} {segments : List Identifier}
    (form : SegmentsForm source segments rest) :
    ∀ steps : Nat, source.length ≤ steps → pathSegments steps source = .ok (segments, rest) := by
  induction form with
  | done skipped ends =>
      intro steps _
      cases steps with
      | zero => rfl
      | succ steps => simp [pathSegments, skipped, ends]
  | more point skipped read _ ih =>
      intro steps enough
      have shorter := (identifier_consumes _ _ _ read).2
      have shortest := (skipTrivia_suffix skipped).length_le
      have opened := (skipTrivia_properEnd point).2
      obtain ⟨steps, rfl⟩ := Nat.exists_eq_add_one_of_ne_zero (show steps ≠ 0 by omega)
      have others := ih steps (by omega)
      simp [pathSegments, point, startsWith, skipped, read, others]

/-- A path is read exactly when identifiers follow its first one behind points. -/
theorem path_eq_ok_iff {source rest : Text} {value : Expression} :
    path source = .ok (value, rest) ↔
      ∃ name after segments, identifier source = .ok (name, after) ∧
        SegmentsForm after segments rest ∧ value = .path (name :: segments) := by
  constructor
  · intro read
    obtain ⟨⟨name, after⟩, first, read⟩ := bind_eq_ok_iff.mp read
    obtain ⟨⟨segments, left⟩, others, same⟩ := bind_eq_ok_iff.mp read
    cases same
    exact ⟨name, after, segments, first, pathSegments_sound le_rfl others, rfl⟩
  · rintro ⟨name, after, segments, first, form, rfl⟩
    have others := pathSegments_complete form _ le_rfl
    simp only [path, first, others, ok_bind, pure_eq_ok]

/-- An argument is read exactly where one of its forms stands. -/
theorem argument_eq_ok_iff {inner : Reader Expression} {source rest : Text}
    {value : Argument Expression} :
    argument inner source = .ok (value, rest) ↔ ArgumentForm inner source value rest := by
  constructor
  · intro read
    obtain ⟨⟨expression, after⟩, first, read⟩ := bind_eq_ok_iff.mp read
    obtain ⟨next, skipped, read⟩ := bind_eq_ok_iff.mp read
    split at read
    · next behind keyword =>
      obtain ⟨start, skip, read⟩ := bind_eq_ok_iff.mp read
      obtain ⟨⟨label, left⟩, name, same⟩ := bind_eq_ok_iff.mp read
      cases same
      exact .labelled first skipped keyword skip name
    · next ends =>
      cases read
      exact .plain first skipped ends
  · intro form
    cases form with
    | plain read skipped ends => simp only [argument, read, skipped, ends, ok_bind, pure_eq_ok]
    | labelled read skipped keyword skip name =>
        simp only [argument, read, skipped, keyword, skip, name, ok_bind, pure_eq_ok]

/-- A word cannot be two different keywords. -/
theorem sameWord_other {name keyword other : Text} (same : Text.sameWord name keyword = true)
    (differs : Text.upper keyword ≠ Text.upper other) : Text.sameWord name other = false :=
  Bool.eq_false_iff.mpr fun both => differs (sameWord_eq same both)

/-- What follows `STRUCT` is read exactly when it has one of the two forms. -/
theorem structLiteral_eq_ok_iff {inner : Reader Expression} (consumes : Consumes inner)
    (argumentConsumes : Consumes (argument inner)) {source rest : Text} {value : Expression} :
    structLiteral inner source = .ok (value, rest) ↔
      (∃ inside fields next valuesInside values, skipTrivia source = .ok ('<' :: inside) ∧
        ListedUntil (structField type) '>' inside fields next ∧
        skipTrivia next = .ok ('(' :: valuesInside) ∧
        ListedUntil inner ')' valuesInside values rest ∧ value = .typed fields values) ∨
      (∃ inside arguments, skipTrivia source = .ok ('(' :: inside) ∧
        ListedUntil (argument inner) ')' inside arguments rest ∧ value = .typeless arguments) := by
  constructor
  · intro read
    obtain ⟨next, skipped, read⟩ := bind_eq_ok_iff.mp read
    -- The first bracket decides whether fields are declared in front of the values.
    split at read
    · next opens =>
      obtain ⟨⟨fields, left⟩, declared, read⟩ := bind_eq_ok_iff.mp read
      obtain ⟨behind, skip, read⟩ := bind_eq_ok_iff.mp read
      obtain ⟨inside, opensValues, read⟩ := bind_eq_ok_iff.mp read
      obtain ⟨⟨values, ended⟩, listed, same⟩ := bind_eq_ok_iff.mp read
      cases same
      obtain ⟨fieldsInside, rfl, members⟩ := (structFields_eq_ok_iff type_consumes).mp declared
      obtain rfl := token_eq_ok_iff.mp opensValues
      exact .inl ⟨_, _, _, _, _, skipped, members, skip,
        (listUntil_eq_ok_iff consumes (by decide)).mp listed, rfl⟩
    · next =>
      obtain ⟨inside, opens, read⟩ := bind_eq_ok_iff.mp read
      obtain ⟨⟨arguments, ended⟩, listed, same⟩ := bind_eq_ok_iff.mp read
      cases same
      obtain rfl := token_eq_ok_iff.mp opens
      exact .inr ⟨_, _, skipped, (listUntil_eq_ok_iff argumentConsumes (by decide)).mp listed, rfl⟩
  · rintro (⟨inside, fields, next, valuesInside, values, opens, declared, opensValues, listed, rfl⟩ |
      ⟨inside, arguments, opens, listed, rfl⟩)
    · have declared := (structFields_eq_ok_iff type_consumes).mpr ⟨_, rfl, declared⟩
      have listed := (listUntil_eq_ok_iff consumes (by decide)).mpr listed
      simp [structLiteral, opens, declared, opensValues, listed, startsWith, token]
    · have listed := (listUntil_eq_ok_iff argumentConsumes (by decide)).mpr listed
      simp [structLiteral, opens, listed, startsWith, token]

/-- Words that differ in case at most are among the same keywords. -/
theorem isAmong_congr {keywords : List Text} {name keyword : Text}
    (same : Text.sameWord name keyword = true) : isAmong keywords name = isAmong keywords keyword := by
  rw [Text.sameWord, beq_iff_eq] at same
  have tests : Text.sameWord name = Text.sameWord keyword := by
    funext other
    rw [Text.sameWord, Text.sameWord, same]
  rw [isAmong, isAmong, tests]

/-- The reserved words are the constants and the keywords of the composite literals. -/
theorem isReserved_eq_or (name : Text) : isReserved name =
    ((constantLiteral? name).isSome ||
      (Text.sameWord name "ARRAY".toList || Text.sameWord name "STRUCT".toList)) := by
  simp only [isReserved, isAmong, reservedWords, List.any_cons, List.any_nil, Bool.or_false,
    constantLiteral?]
  cases Text.sameWord name "NULL".toList <;> cases Text.sameWord name "TRUE".toList <;>
    cases Text.sameWord name "FALSE".toList <;> rfl

/-- A word that is not reserved is no constant. -/
theorem constantLiteral?_eq_none {name : Text} (free : isReserved name = false) :
    constantLiteral? name = none := by
  rw [isReserved_eq_or, Bool.or_eq_false_iff] at free
  exact Option.not_isSome_iff_eq_none.mp (Bool.eq_false_iff.mp free.1)

/-- A word that is neither a constant nor a composite keyword is not reserved. -/
theorem isReserved_eq_false {name : Text} (noConstant : constantLiteral? name = none)
    (noArray : ¬ Text.sameWord name "ARRAY".toList = true)
    (noStruct : ¬ Text.sameWord name "STRUCT".toList = true) : isReserved name = false := by
  rw [isReserved_eq_or, noConstant, Bool.eq_false_iff.mpr noArray, Bool.eq_false_iff.mpr noStruct]
  rfl

/-- The words that stand in front of tagged literals are not reserved. -/
theorem taggedLiteral?_unreserved {name : Text} {tag : Text → Literal}
    (tagged : taggedLiteral? name = some tag) : isReserved name = false := by
  unfold taggedLiteral? at tagged
  split_ifs at tagged with same same same same
  all_goals exact (isAmong_congr same).trans (by decide)

/-- The word of a constant is read as that constant. -/
theorem wordExpression_constant {inner : Reader Expression} {source name rest : Text}
    {value : Literal} (read : word source = .ok (name, rest))
    (constant : constantLiteral? name = some value) :
    wordExpression inner source = .ok (.literal value, rest) := by
  unfold constantLiteral? at constant
  simp only [wordExpression, read, ok_bind]
  split_ifs at constant with isNull isTrue isFalse
  · cases constant
    rw [if_pos isNull]
    rfl
  · cases constant
    rw [if_neg isNull, if_pos isTrue]
    rfl
  · cases constant
    rw [if_neg isNull, if_neg isTrue, if_pos isFalse]
    rfl

/-- Behind a word that is no constant the other forms are tried in turn. -/
theorem wordExpression_other {inner : Reader Expression} {source name rest : Text}
    (read : word source = .ok (name, rest)) (noConstant : constantLiteral? name = none) :
    wordExpression inner source =
      (if Text.sameWord name "ARRAY".toList then do
        let (element, rest) ← angleType type rest
        let rest ← skipTrivia rest
        let (items, rest) ← arrayItems inner rest
        return (.array element items, rest)
      else if Text.sameWord name "STRUCT".toList then structLiteral inner rest
      else
        match taggedLiteral? name with
        | none => path source
        | some tagged => do
          let rest ← skipTrivia rest
          if Quoted.startsLiteral rest then
            let (text, rest) ← Quoted.text rest
            return (.literal (tagged text), rest)
          else path source) := by
  unfold constantLiteral? at noConstant
  simp only [wordExpression, read, ok_bind]
  split_ifs at noConstant with isNull isTrue isFalse
  rw [if_neg isNull, if_neg isTrue]
  exact if_neg isFalse

/-- The composite keywords are no constants. -/
theorem constantLiteral?_composite {name keyword : Text} (same : Text.sameWord name keyword = true)
    (composite : keyword = "ARRAY".toList ∨ keyword = "STRUCT".toList) :
    constantLiteral? name = none := by
  have other {constant : Text} (differs : Text.upper "ARRAY".toList ≠ Text.upper constant ∧
      Text.upper "STRUCT".toList ≠ Text.upper constant) : ¬ Text.sameWord name constant = true := by
    apply Bool.eq_false_iff.mp
    rcases composite with rfl | rfl
    · exact sameWord_other same differs.1
    · exact sameWord_other same differs.2
  rw [constantLiteral?, if_neg (other (by decide)), if_neg (other (by decide)),
    if_neg (other (by decide))]

/-- A word that is not reserved is a tag when a string follows it, and the start of a path otherwise.
-/
theorem wordExpression_unreserved {inner : Reader Expression} {source name rest : Text}
    (read : word source = .ok (name, rest)) (free : isReserved name = false) :
    wordExpression inner source =
      (match taggedLiteral? name with
      | none => path source
      | some tagged => do
        let rest ← skipTrivia rest
        if Quoted.startsLiteral rest then
          let (text, rest) ← Quoted.text rest
          return (.literal (tagged text), rest)
        else path source) := by
  have noArray := sameWord_of_not_reserved free (show "ARRAY".toList ∈ reservedWords by decide)
  have noStruct := sameWord_of_not_reserved free (show "STRUCT".toList ∈ reservedWords by decide)
  rw [wordExpression_other read (constantLiteral?_eq_none free), if_neg (Bool.eq_false_iff.mp noArray),
    if_neg (Bool.eq_false_iff.mp noStruct)]

/-- The items of an array are read exactly where their list stands between square brackets. -/
theorem arrayItems_eq_ok_iff {inner : Reader Expression} (consumes : Consumes inner)
    {source rest : Text} {items : List Expression} :
    arrayItems inner source = .ok (items, rest) ↔
      ∃ inside, source = '[' :: inside ∧ ListedUntil inner ']' inside items rest := by
  have listed (inside : Text) : listUntil inner ']' inside = .ok (items, rest) ↔
      ListedUntil inner ']' inside items rest := listUntil_eq_ok_iff consumes (by decide)
  simp only [arrayItems, bind_eq_ok_iff, token_eq_ok_iff, listed]

/-- An argument takes at least one letter when its expression does. -/
theorem argument_consumes {inner : Reader Expression} (consumes : Consumes inner) :
    Consumes (argument inner) := by
  intro source value rest read
  have form := argument_eq_ok_iff.mp read
  cases form with
  | plain first skipped _ => exact .of_suffix (skipTrivia_suffix skipped) (consumes _ _ _ first)
  | labelled first skipped keyword skip name =>
      have named := (identifier_consumes _ _ _ name).1.trans (skipTrivia_suffix skip)
      have labelled := named.trans (afterKeyword?_properEnd keyword).1
      exact .of_suffix (labelled.trans (skipTrivia_suffix skipped)) (consumes _ _ _ first)

/-- What starts with a word is read in one of the forms of that kind. -/
theorem wordExpression_sound {inner : Reader Expression} (consumes : Consumes inner)
    {source rest : Text} {value : Expression}
    (read : wordExpression inner source = .ok (value, rest)) : WordForm inner source value rest := by
  obtain ⟨⟨name, after⟩, head, _⟩ := bind_eq_ok_iff.mp read
  -- The reader looks for a constant, an array, a struct, a tagged string and a path, in this order.
  cases constant : constantLiteral? name with
  | some literal =>
      rw [wordExpression_constant head constant] at read
      cases read
      exact .constant head constant
  | none =>
      rw [wordExpression_other head constant] at read
      split at read
      · next isArray =>
        obtain ⟨⟨element, next⟩, angle, read⟩ := bind_eq_ok_iff.mp read
        obtain ⟨opening, skipped, read⟩ := bind_eq_ok_iff.mp read
        obtain ⟨⟨items, left⟩, listed, same⟩ := bind_eq_ok_iff.mp read
        cases same
        obtain ⟨inside, rfl, between⟩ := (arrayItems_eq_ok_iff consumes).mp listed
        exact .array (afterKeyword?_eq_some_iff.mpr ⟨name, head, isArray⟩)
          (angleType_eq_ok_iff.mp angle) skipped between
      · next noArray =>
        split at read
        · next isStruct =>
          have keyword := afterKeyword?_eq_some_iff.mpr ⟨name, head, isStruct⟩
          rcases (structLiteral_eq_ok_iff consumes (argument_consumes consumes)).mp read with
            ⟨_, _, _, _, _, opens, declared, opensValues, listed, rfl⟩ | ⟨_, _, opens, listed, rfl⟩
          · exact .typed keyword opens declared opensValues listed
          · exact .typeless keyword opens listed
        · next noStruct =>
          -- The word is not reserved here, and a path reads it once more from the start.
          have free := isReserved_eq_false constant noArray noStruct
          have first := identifier_of_word head
          split at read
          · next untagged =>
            obtain ⟨found, behind, segments, again, others, rfl⟩ := path_eq_ok_iff.mp read
            obtain ⟨rfl, rfl⟩ := Prod.mk.inj (Except.ok.inj (first.symm.trans again))
            refine .path head free ?_ others
            rw [untagged]
            exact fun tagged => nomatch tagged
          · next tag tagged =>
            obtain ⟨next, skipped, read⟩ := bind_eq_ok_iff.mp read
            split at read
            · next starts =>
              obtain ⟨⟨text, left⟩, content, same⟩ := bind_eq_ok_iff.mp read
              cases same
              exact .tagged head tagged skipped (Quoted.text_eq_ok_iff.mp content)
            · next ends =>
              obtain ⟨found, behind, segments, again, others, rfl⟩ := path_eq_ok_iff.mp read
              obtain ⟨rfl, rfl⟩ := Prod.mk.inj (Except.ok.inj (first.symm.trans again))
              exact .path head free (fun _ => ⟨next, skipped, Bool.eq_false_iff.mpr ends⟩) others

/-- Each form of an expression that starts with a word is read: the forms exclude one another by their
first word and what follows it. -/
theorem wordExpression_complete {inner : Reader Expression} (consumes : Consumes inner)
    {source rest : Text} {value : Expression} (form : WordForm inner source value rest) :
    wordExpression inner source = .ok (value, rest) := by
  cases form with
  | constant read constant => exact wordExpression_constant read constant
  | array keyword angle opens listed =>
      obtain ⟨name, read, same⟩ := afterKeyword?_eq_some_iff.mp keyword
      have angle := angleType_eq_ok_iff.mpr angle
      have items := (arrayItems_eq_ok_iff consumes).mpr ⟨_, rfl, listed⟩
      rw [wordExpression_other read (constantLiteral?_composite same (.inl rfl)), if_pos same]
      simp only [angle, opens, items, ok_bind, pure_eq_ok]
  | typed keyword opens declared opensValues listed =>
      obtain ⟨name, read, same⟩ := afterKeyword?_eq_some_iff.mp keyword
      have noArray : ¬ Text.sameWord name "ARRAY".toList = true :=
        Bool.eq_false_iff.mp (sameWord_other same (by decide))
      rw [wordExpression_other read (constantLiteral?_composite same (.inr rfl)), if_neg noArray,
        if_pos same]
      exact (structLiteral_eq_ok_iff consumes (argument_consumes consumes)).mpr
        (.inl ⟨_, _, _, _, _, opens, declared, opensValues, listed, rfl⟩)
  | typeless keyword opens listed =>
      obtain ⟨name, read, same⟩ := afterKeyword?_eq_some_iff.mp keyword
      have noArray : ¬ Text.sameWord name "ARRAY".toList = true :=
        Bool.eq_false_iff.mp (sameWord_other same (by decide))
      rw [wordExpression_other read (constantLiteral?_composite same (.inr rfl)), if_neg noArray,
        if_pos same]
      exact (structLiteral_eq_ok_iff consumes (argument_consumes consumes)).mpr
        (.inr ⟨_, _, opens, listed, rfl⟩)
  | tagged read tagged skipped content =>
      have starts := Quoted.startsLiteral_of_literal content
      have content := Quoted.text_eq_ok_iff.mpr content
      rw [wordExpression_unreserved read (taggedLiteral?_unreserved tagged), tagged]
      simp only [skipped, starts, content, ok_bind, if_true, pure_eq_ok]
  | path read free untagged others =>
      have whole := path_eq_ok_iff.mpr ⟨_, _, _, identifier_of_word read, others, rfl⟩
      rw [wordExpression_unreserved read free]
      split
      · exact whole
      · next tag tagged =>
        obtain ⟨next, skipped, ends⟩ := untagged (by rw [tagged]; rfl)
        simp only [skipped, ends, whole, ok_bind, Bool.false_eq_true, if_false]

/-- A quoted name starts with a backquote. -/
theorem backquote_of_quoted {name : Identifier} {source rest : Text}
    (read : identifier source = .ok (name, rest)) (quoted : name.quoted = true) :
    ∃ tail, source = '\x60' :: tail := by
  obtain ⟨rfl, _⟩ := identifier_eq_ok_iff.mp read
  rw [Identifier.sql, if_pos quoted]
  exact ⟨_, rfl⟩

/-- A letter that starts a word starts no number. -/
theorem isNumberStart_of_isWordStart {letter : Char} (start : Identifier.isWordStart letter = true) :
    isNumberStart letter = false := by
  refine Bool.eq_false_iff.mpr fun number => ?_
  simp only [isNumberStart, Bool.or_eq_true, beq_iff_eq] at number
  rcases number with ((digit | rfl) | rfl) | rfl
  · rw [isWordStart_of_isDigit digit] at start
    cases start
  all_goals cases start

/-- A name that starts with a backquote is quoted. -/
theorem quoted_of_backquote {name : Identifier} {inside rest : Text}
    (read : identifier ('\x60' :: inside) = .ok (name, rest)) : name.quoted = true := by
  refine (Bool.eq_false_or_eq_true name.quoted).resolve_right fun plain => ?_
  cases word_of_identifier read plain

/-- A form of this kind starts with a letter of a word. -/
theorem WordForm.starts {inner : Reader Expression} {source rest : Text} {value : Expression}
    (form : WordForm inner source value rest) :
    ∃ letter tail, source = letter :: tail ∧ Identifier.isWordStart letter = true := by
  have starts : startsWord source = true := by
    cases form with
    | constant read _ => exact startsWord_of_word read
    | array keyword _ _ _ => exact startsWord_of_keyword keyword
    | typed keyword _ _ _ _ => exact startsWord_of_keyword keyword
    | typeless keyword _ _ => exact startsWord_of_keyword keyword
    | tagged read _ _ _ => exact startsWord_of_word read
    | path read _ _ _ => exact startsWord_of_word read
  cases source with
  | nil => cases starts
  | cons letter tail => exact ⟨letter, tail, rfl, starts⟩

/-- A source that starts with a letter of a kind does not start with a mark of another one. -/
theorem startsWith_other (kind : Char → Bool) {mark letter : Char} (rest : Text)
    (found : kind letter = true) (other : kind mark = false) : startsWith mark (letter :: rest) = false := by
  refine Bool.eq_false_iff.mpr fun starts => ?_
  obtain ⟨_, same⟩ := startsWith_iff.mp starts
  rw [(List.cons_eq_cons.mp same).1, other] at found
  cases found

/-- A letter of another kind opens no brackets and no parameter. -/
theorem startsWith_opening (kind : Char → Bool) {letter : Char} (rest : Text)
    (found : kind letter = true) (others : ['[', '(', '@'].any kind = false) :
    startsWith '[' (letter :: rest) = false ∧ startsWith '(' (letter :: rest) = false ∧
      startsWith '@' (letter :: rest) = false := by
  have other {mark : Char} (member : mark ∈ ['[', '(', '@']) : startsWith mark (letter :: rest) = false :=
    startsWith_other kind rest found (none_of_mem member others)
  exact ⟨other (by decide), other (by decide), other (by decide)⟩

/-- A source whose first letter is of a kind that no literal starts with starts no literal. -/
theorem startsLiteral_other (kind : Char → Bool) {letter : Char} (rest : Text)
    (found : kind letter = true) (others : Quoted.literalStarts.any kind = false) :
    Quoted.startsLiteral (letter :: rest) = false := by
  refine Bool.eq_false_iff.mpr fun starts => ?_
  exact List.any_eq_false.mp others letter (Quoted.startsLiteral_head starts) found

/-- A single expression in parentheses is no tuple. -/
theorem parentheses_eq_ok_iff {inner : Reader Expression} (consumes : Consumes inner)
    {source rest : Text} {value : Expression} :
    parentheses inner source = .ok (value, rest) ↔
      (∃ only, Listed inner ')' source [only] rest ∧ value = .parenthesized only) ∨
      (∃ values, values.length ≠ 1 ∧ Listed inner ')' source values rest ∧ value = .tuple values) := by
  have listed (values : List Expression) (left : Text) :
      commaList inner ')' (source.length + 1) source = .ok (values, left) ↔
        Listed inner ')' source values left := commaList_eq_ok_iff consumes (by decide)
  constructor
  · intro read
    obtain ⟨⟨values, left⟩, items, read⟩ := bind_eq_ok_iff.mp read
    have items := (listed values left).mp items
    match values with
    | [] =>
        cases read
        exact .inr ⟨[], by simp, items, rfl⟩
    | [only] =>
        cases read
        exact .inl ⟨only, items, rfl⟩
    | first :: second :: others =>
        cases read
        exact .inr ⟨first :: second :: others, by simp, items, rfl⟩
  · rintro (⟨only, items, rfl⟩ | ⟨values, several, items, rfl⟩)
    · rw [parentheses, (listed _ _).mpr items]
      rfl
    · rw [parentheses, (listed _ _).mpr items]
      match values with
      | [] => rfl
      | [only] => exact absurd rfl several
      | first :: second :: others => rfl

/-- What is read as an expression has one of the forms of an expression. -/
theorem expressionWith_sound {inner : Reader Expression} (consumes : Consumes inner)
    {source rest : Text} {value : Expression}
    (read : expressionWith inner source = .ok (value, rest)) :
    ∃ start, skipTrivia source = .ok start ∧ ExpressionForm inner start value rest := by
  -- The branches in the order of the reader: an array, brackets, a parameter, a quoted literal, a
  -- number, a path that starts with a backquote, and a word.
  obtain ⟨start, skipped, read⟩ := bind_eq_ok_iff.mp read
  refine ⟨start, skipped, ?_⟩
  split at read
  · next =>
    obtain ⟨⟨items, left⟩, listed, same⟩ := bind_eq_ok_iff.mp read
    cases same
    obtain ⟨inside, rfl, between⟩ := (arrayItems_eq_ok_iff consumes).mp listed
    exact .array between
  · split at read
    · next opens =>
      obtain ⟨inside, rfl⟩ := startsWith_iff.mp opens
      rcases (parentheses_eq_ok_iff consumes).mp read with
        ⟨_, listed, rfl⟩ | ⟨_, several, listed, rfl⟩
      · exact .parenthesized listed
      · exact .tuple several listed
    · split at read
      · next opens =>
        obtain ⟨inside, rfl⟩ := startsWith_iff.mp opens
        obtain ⟨⟨name, left⟩, first, same⟩ := bind_eq_ok_iff.mp read
        cases same
        exact .parameter first
      · split at read
        · next =>
          obtain ⟨⟨literal, left⟩, first, same⟩ := bind_eq_ok_iff.mp read
          cases same
          exact .quoted first
        · next noLiteral =>
          split at read
          · next =>
            obtain ⟨⟨literal, left⟩, first, same⟩ := bind_eq_ok_iff.mp read
            cases same
            exact .number first
          · split at read
            · next backquote =>
              obtain ⟨inside, rfl⟩ := startsWith_iff.mp backquote
              obtain ⟨name, after, segments, first, others, rfl⟩ := path_eq_ok_iff.mp read
              exact .path first (quoted_of_backquote first) others
            · exact .word (Bool.eq_false_iff.mpr noLiteral)
                (wordExpression_sound consumes read)

/-- Each form of an expression is read behind trivia: what the source starts with decides which reader
has its turn. -/
theorem expressionWith_complete {inner : Reader Expression} (consumes : Consumes inner)
    {source start rest : Text} {value : Expression} (skipped : skipTrivia source = .ok start)
    (form : ExpressionForm inner start value rest) :
    expressionWith inner source = .ok (value, rest) := by
  simp only [expressionWith, skipped, ok_bind]
  cases form with
  | array listed =>
      have items := (arrayItems_eq_ok_iff consumes).mpr ⟨_, rfl, listed⟩
      simp [startsWith, items]
  | parenthesized listed =>
      have read := (parentheses_eq_ok_iff consumes).mpr (.inl ⟨_, listed, rfl⟩)
      simp [startsWith, read]
  | tuple several listed =>
      have read := (parentheses_eq_ok_iff consumes).mpr (.inr ⟨_, several, listed, rfl⟩)
      simp [startsWith, read]
  | parameter read => simp [startsWith, read]
  | quoted read =>
      have starts := Quoted.startsLiteral_of_literal read
      obtain ⟨letter, tail, rfl⟩ :=
        List.exists_cons_of_ne_nil (Quoted.literal_consumes.stands read)
      -- A literal starts with a quote or a letter, so with none of the three marks before.
      have head := List.contains_iff_mem.mpr (Quoted.startsLiteral_head starts)
      obtain ⟨noArray, noParentheses, noParameter⟩ := startsWith_opening _ tail head (by decide)
      simp [noArray, noParentheses, noParameter, starts, read]
  | number read =>
      obtain ⟨letter, tail, rfl, head⟩ := Number.literal_starts read
      obtain ⟨noArray, noParentheses, noParameter⟩ := startsWith_opening _ tail head (by decide)
      have noLiteral : Quoted.startsLiteral (letter :: tail) = false :=
        startsLiteral_other _ tail head (by decide)
      simp [noArray, noParentheses, noParameter, noLiteral, head, read]
  | @path _ _ _ name _ read quoted others =>
      have whole := path_eq_ok_iff.mpr ⟨_, _, _, read, others, rfl⟩
      obtain ⟨tail, rfl⟩ := backquote_of_quoted read quoted
      have noLiteral : Quoted.startsLiteral ('\x60' :: tail) = false :=
        startsLiteral_other (· == '\x60') tail rfl (by decide)
      have noNumber : isNumberStart '\x60' = false := by decide
      simp [startsWith, noLiteral, noNumber, whole]
  | word noLiteral form =>
      have read := wordExpression_complete consumes form
      -- The first letter of a word belongs to no branch before, but it could be the prefix of a
      -- literal.
      obtain ⟨letter, tail, rfl, head⟩ := form.starts
      obtain ⟨noArray, noParentheses, noParameter⟩ := startsWith_opening _ tail head (by decide)
      have noPath : startsWith '\x60' (letter :: tail) = false := startsWith_other _ tail head rfl
      have noNumber : isNumberStart letter = false := isNumberStart_of_isWordStart head
      simp [noArray, noParentheses, noParameter, noPath, noLiteral, noNumber, read]

/-- An expression is read exactly where one of its forms stands behind trivia. -/
theorem expressionWith_eq_ok_iff {inner : Reader Expression} (consumes : Consumes inner)
    {source rest : Text} {value : Expression} :
    expressionWith inner source = .ok (value, rest) ↔
      ∃ start, skipTrivia source = .ok start ∧ ExpressionForm inner start value rest :=
  ⟨expressionWith_sound consumes,
    fun ⟨_, skipped, form⟩ => expressionWith_complete consumes skipped form⟩

end ParamCodec.Grammar
