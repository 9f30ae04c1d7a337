import ParamCodec.Grammar.TypeGrammar
import ParamCodec.Proofs.Grammar.Lists

namespace ParamCodec.Grammar

/-- The two forms of a length. -/
inductive LengthForm (source : Text) : TypeLength → Text → Prop
  | maximum {rest : Text} (keyword : afterKeyword? "MAX".toList source = some rest) :
      LengthForm source .maximum rest
  | fixed {digits rest : Text} (noKeyword : afterKeyword? "MAX".toList source = none)
      (whole : source = digits ++ rest) (stands : digits ≠ [])
      (all : digits.all Char.isDigit = true) (ends : EndsRun Char.isDigit rest)
      (small : Text.decimalValue digits ≤ greatestLength) :
      LengthForm source (.fixed (Text.decimalValue digits)) rest

/-- The name of a type alone or with a length. -/
inductive NamedForm (source : Text) : TypeFragment → Text → Prop
  | plain {name rest next : Text} (read : word source = .ok (name, rest))
      (free : isReserved name = false) (skipped : skipTrivia rest = .ok next)
      (ends : startsWith '(' next = false) : NamedForm source (.named ⟨name, false⟩ none) rest
  | sized {name after inside start afterLength rest : Text} {length : TypeLength}
      (read : word source = .ok (name, after)) (free : isReserved name = false)
      (opens : skipTrivia after = .ok ('(' :: inside)) (skipped : skipTrivia inside = .ok start)
      (sized : LengthForm start length afterLength)
      (closes : skipTrivia afterLength = .ok (')' :: rest)) :
      NamedForm source (.named ⟨name, false⟩ (some length)) rest

/-- A type between angle brackets, or none. -/
inductive AngleForm (type : Reader TypeFragment) (source : Text) :
    Option TypeFragment → Text → Prop
  | absent {next : Text} (skipped : skipTrivia source = .ok next)
      (ends : startsWith '<' next = false) : AngleForm type source none source
  | present {inside after rest : Text} {element : TypeFragment}
      (opens : skipTrivia source = .ok ('<' :: inside)) (read : type inside = .ok (element, after))
      (closes : skipTrivia after = .ok ('>' :: rest)) : AngleForm type source (some element) rest

/-- The word `ARRAY` or `STRUCT` starts the source. -/
def startsComposite (source : Text) : Bool :=
  (afterKeyword? "ARRAY".toList source).isSome || (afterKeyword? "STRUCT".toList source).isSome

/-- A letter that can start a word stands here. -/
def startsWord (source : Text) : Bool := (source.head?.map Identifier.isWordStart).getD false

/-- The forms of a member of a struct type whose source starts with no trivia. -/
inductive FieldForm (type : Reader TypeFragment) (source : Text) :
    FieldFragment TypeFragment → Text → Prop
  | composite {positional : TypeFragment} {rest : Text} (starts : startsComposite source = true)
      (read : type source = .ok (positional, rest)) : FieldForm type source ⟨none, some positional⟩ rest
  | named {name : Identifier} {after next rest : Text} {named : TypeFragment}
      (starts : startsComposite source = false) (first : identifier source = .ok (name, after))
      (skipped : skipTrivia after = .ok next) (goesOn : startsWord next = true)
      (read : type next = .ok (named, rest)) : FieldForm type source ⟨some name, some named⟩ rest
  | scalar {name : Identifier} {after next rest : Text} {positional : TypeFragment}
      (starts : startsComposite source = false) (first : identifier source = .ok (name, after))
      (skipped : skipTrivia after = .ok next) (ends : startsWord next = false)
      (plain : name.quoted = false) (keyword : isTypeKeyword name.name = true)
      (read : type source = .ok (positional, rest)) : FieldForm type source ⟨none, some positional⟩ rest
  | bare {name : Identifier} {after rest : Text}
      (starts : startsComposite source = false) (first : identifier source = .ok (name, after))
      (skipped : skipTrivia after = .ok rest) (ends : startsWord rest = false)
      (free : name.quoted = true ∨ isTypeKeyword name.name = false) :
      FieldForm type source ⟨some name, none⟩ rest

/-- The forms of a type whose source starts with no trivia. -/
inductive TypeForm (inner : Reader TypeFragment) (source : Text) : TypeFragment → Text → Prop
  | array {after rest : Text} {element : Option TypeFragment}
      (keyword : afterKeyword? "ARRAY".toList source = some after)
      (angle : AngleForm inner after element rest) : TypeForm inner source (.array element) rest
  | struct {after inside rest : Text} {fields : List (FieldFragment TypeFragment)}
      (keyword : afterKeyword? "STRUCT".toList source = some after)
      (opens : skipTrivia after = .ok ('<' :: inside))
      (listed : ListedUntil (structField inner) '>' inside fields rest) :
      TypeForm inner source (.struct fields) rest
  | named {type : TypeFragment} {rest : Text} (named : NamedForm source type rest) :
      TypeForm inner source type rest

/-- A length is read exactly where its form stands. -/
theorem typeLength_eq_ok_iff {source rest : Text} {length : TypeLength} :
    typeLength source = .ok (length, rest) ↔ LengthForm source length rest := by
  constructor
  · intro read
    unfold typeLength at read
    split at read
    · next after keyword =>
      cases read
      exact .maximum keyword
    · next noKeyword =>
      dsimp only at read
      split at read
      · cases read
      · next stands =>
        split at read
        · cases read
        · next small =>
          cases read
          obtain ⟨whole, all, ends⟩ := run_eq_iff.mp
            ⟨(rfl : source.takeWhile Char.isDigit = _), (rfl : source.dropWhile Char.isDigit = _)⟩
          exact .fixed noKeyword whole (by simpa using stands) all ends (not_lt.mp small)
  · intro form
    cases form with
    | maximum keyword => rw [typeLength, keyword]
    | fixed noKeyword whole stands all ends small =>
        obtain ⟨taken, left⟩ := run_eq_iff.mpr ⟨whole, all, ends⟩
        rw [typeLength, noKeyword]
        simp [taken, left, stands, not_lt.mpr small]

/-- A named type is read exactly where its form stands. -/
theorem namedType_eq_ok_iff {source rest : Text} {type : TypeFragment} :
    namedType source = .ok (type, rest) ↔ NamedForm source type rest := by
  constructor
  · intro read
    obtain ⟨⟨name, after⟩, first, read⟩ := bind_eq_ok_iff.mp read
    dsimp only at read
    split at read
    · cases read
    · next free =>
      obtain ⟨next, skipped, read⟩ := bind_eq_ok_iff.mp read
      split at read
      · next opens =>
        obtain ⟨inside, rfl⟩ := startsWith_iff.mp opens
        obtain ⟨start, skip, read⟩ := bind_eq_ok_iff.mp read
        obtain ⟨⟨length, afterLength⟩, sized, read⟩ := bind_eq_ok_iff.mp read
        obtain ⟨close, skipLast, read⟩ := bind_eq_ok_iff.mp read
        obtain ⟨left, closes, read⟩ := bind_eq_ok_iff.mp read
        cases read
        obtain rfl := token_eq_ok_iff.mp closes
        exact .sized first (Bool.eq_false_iff.mpr free) skipped skip
          (typeLength_eq_ok_iff.mp sized) skipLast
      · next ends =>
        cases read
        exact .plain first (Bool.eq_false_iff.mpr free) skipped (Bool.eq_false_iff.mpr ends)
  · intro form
    cases form with
    | plain read free skipped ends => simp [namedType, read, free, skipped, ends]
    | sized read free opens skipped sized closes =>
        have sized := typeLength_eq_ok_iff.mpr sized
        simp [namedType, read, free, opens, skipped, sized, closes, startsWith, token]

/-- The part between angle brackets is read exactly where its form stands. -/
theorem angleType_eq_ok_iff {type : Reader TypeFragment} {source rest : Text}
    {element : Option TypeFragment} :
    angleType type source = .ok (element, rest) ↔ AngleForm type source element rest := by
  constructor
  · intro read
    obtain ⟨next, skipped, read⟩ := bind_eq_ok_iff.mp read
    split at read
    · next opens =>
      obtain ⟨inside, rfl⟩ := startsWith_iff.mp opens
      obtain ⟨⟨found, after⟩, first, read⟩ := bind_eq_ok_iff.mp read
      obtain ⟨close, skip, read⟩ := bind_eq_ok_iff.mp read
      obtain ⟨left, closes, read⟩ := bind_eq_ok_iff.mp read
      cases read
      obtain rfl := token_eq_ok_iff.mp closes
      exact .present skipped first skip
    · next ends =>
      cases read
      exact .absent skipped (Bool.eq_false_iff.mpr ends)
  · intro form
    cases form with
    | absent skipped ends => simp [angleType, skipped, ends]
    | present opens read closes => simp [angleType, opens, read, closes, startsWith, token]

/-- A field that is read has one of the forms of fields behind the trivia. -/
theorem structField_sound {type : Reader TypeFragment} {source rest : Text}
    {field : FieldFragment TypeFragment} (read : structField type source = .ok (field, rest)) :
    ∃ start, skipTrivia source = .ok start ∧ FieldForm type start field rest := by
  obtain ⟨start, skipped, read⟩ := bind_eq_ok_iff.mp read
  refine ⟨start, skipped, ?_⟩
  split at read
  · next starts =>
    obtain ⟨⟨positional, left⟩, first, read⟩ := bind_eq_ok_iff.mp read
    cases read
    exact .composite starts first
  · next starts =>
    have starts := Bool.eq_false_iff.mpr starts
    obtain ⟨⟨name, after⟩, first, read⟩ := bind_eq_ok_iff.mp read
    obtain ⟨next, skip, read⟩ := bind_eq_ok_iff.mp read
    split at read
    · next goesOn =>
      obtain ⟨⟨named, left⟩, second, read⟩ := bind_eq_ok_iff.mp read
      cases read
      exact .named starts first skip goesOn second
    · next ends =>
      have ends := Bool.eq_false_iff.mpr ends
      split at read
      · next keyword =>
        obtain ⟨⟨positional, left⟩, second, read⟩ := bind_eq_ok_iff.mp read
        cases read
        simp only [Bool.and_eq_true, Bool.not_eq_true'] at keyword
        exact .scalar starts first skip ends keyword.1 keyword.2 second
      · next free =>
        cases read
        refine .bare starts first skip ends ?_
        cases quoted : name.quoted <;> simp_all

/-- Every form of a field is read behind trivia. -/
theorem structField_complete {type : Reader TypeFragment} {source start rest : Text}
    {field : FieldFragment TypeFragment} (skipped : skipTrivia source = .ok start)
    (form : FieldForm type start field rest) : structField type source = .ok (field, rest) := by
  cases form with
  | composite starts read =>
      rw [startsComposite] at starts
      simp only [structField, skipped, starts, read, ok_bind, if_true, pure_eq_ok]
  | named starts first skip goesOn read =>
      rw [startsComposite] at starts
      rw [startsWord] at goesOn
      simp only [structField, skipped, starts, first, skip, goesOn, read, ok_bind, if_true,
        Bool.false_eq_true, if_false, pure_eq_ok]
  | scalar starts first skip ends plain keyword read =>
      rw [startsComposite] at starts
      rw [startsWord] at ends
      simp only [structField, skipped, starts, first, skip, ends, plain, keyword, read, ok_bind,
        if_true, Bool.false_eq_true, if_false, pure_eq_ok, Bool.not_false, Bool.and_true]
  | @bare name _ _ starts first skip ends free =>
      rw [startsComposite] at starts
      rw [startsWord] at ends
      have noKeyword : (!name.quoted && isTypeKeyword name.name) = false := by
        rcases free with quoted | free <;> simp [*]
      simp only [structField, skipped, starts, first, skip, ends, noKeyword, ok_bind,
        Bool.false_eq_true, if_false, pure_eq_ok]

/-- A field is read exactly where one of its forms stands behind trivia. -/
theorem structField_eq_ok_iff {type : Reader TypeFragment} {source rest : Text}
    {field : FieldFragment TypeFragment} :
    structField type source = .ok (field, rest) ↔
      ∃ start, skipTrivia source = .ok start ∧ FieldForm type start field rest :=
  ⟨structField_sound, fun ⟨_, skipped, form⟩ => structField_complete skipped form⟩

/-- A word takes at least one letter. -/
theorem word_consumes : Consumes word := by
  intro source name rest read
  obtain ⟨rfl, isName, _⟩ := word_eq_ok_iff.mp read
  exact properEnd_append rest (by rintro rfl; cases isName)

/-- A name takes at least one letter. -/
theorem identifier_consumes : Consumes identifier := by
  intro source name rest read
  obtain ⟨rfl, valid, _⟩ := identifier_eq_ok_iff.mp read
  refine properEnd_append rest ?_
  obtain ⟨name, quoted⟩ := name
  cases quoted with
  | true => simp [Identifier.sql]
  | false => rintro (rfl : name = []); cases valid

/-- Behind a keyword stands a proper end of its source. -/
theorem afterKeyword?_properEnd {keyword source rest : Text}
    (found : afterKeyword? keyword source = some rest) : ProperEnd rest source := by
  obtain ⟨name, read, _⟩ := afterKeyword?_eq_some_iff.mp found
  exact word_consumes _ _ _ read

/-- Behind a named type stands a proper end of its source. -/
theorem NamedForm.properEnd {source rest : Text} {type : TypeFragment}
    (form : NamedForm source type rest) : ProperEnd rest source := by
  cases form with
  | plain read _ _ _ => exact word_consumes _ _ _ read
  | sized read _ opens skipped sized closes =>
      refine (skipTrivia_properEnd closes).trans_suffix ?_
      have inner := (skipTrivia_suffix skipped).trans (skipTrivia_properEnd opens).1
      refine List.IsSuffix.trans ?_ (inner.trans (word_consumes _ _ _ read).1)
      cases sized with
      | maximum keyword => exact (afterKeyword?_properEnd keyword).1
      | fixed _ whole _ _ _ _ => exact whole ▸ List.suffix_append _ _

/-- Behind the part between angle brackets, which may be missing, stands an end of its source. -/
theorem AngleForm.suffix {type : Reader TypeFragment} (consumes : Consumes type)
    {source rest : Text} {element : Option TypeFragment}
    (form : AngleForm type source element rest) : rest <:+ source := by
  cases form with
  | absent _ _ => exact List.suffix_rfl
  | present opens read closes =>
      exact ((skipTrivia_properEnd closes).trans (consumes _ _ _ read)).1.trans
        (skipTrivia_properEnd opens).1

/-- A field takes at least one letter when types do. -/
theorem structField_consumes {type : Reader TypeFragment} (consumes : Consumes type) :
    Consumes (structField type) := by
  intro source field rest read
  obtain ⟨start, skipped, form⟩ := structField_eq_ok_iff.mp read
  refine ProperEnd.trans_suffix ?_ (skipTrivia_suffix skipped)
  cases form with
  | composite _ read => exact consumes _ _ _ read
  | named _ first skip _ read =>
      exact (consumes _ _ _ read).trans_suffix
        ((skipTrivia_suffix skip).trans (identifier_consumes _ _ _ first).1)
  | scalar _ _ _ _ _ _ read => exact consumes _ _ _ read
  | bare _ first skip _ _ => exact .of_suffix (skipTrivia_suffix skip) (identifier_consumes _ _ _ first)

/-- The fields of a struct are read exactly where a list of fields stands between angle brackets. -/
theorem structFields_eq_ok_iff {type : Reader TypeFragment} (consumes : Consumes type)
    {source rest : Text} {fields : List (FieldFragment TypeFragment)} :
    structFields type source = .ok (fields, rest) ↔
      ∃ inside, source = '<' :: inside ∧ ListedUntil (structField type) '>' inside fields rest := by
  have listed (inside : Text) : listUntil (structField type) '>' inside = .ok (fields, rest) ↔
      ListedUntil (structField type) '>' inside fields rest :=
    listUntil_eq_ok_iff (structField_consumes consumes) (by decide)
  simp only [structFields, bind_eq_ok_iff, token_eq_ok_iff, listed]

/-- A word is the same keyword as at most one text of one case. -/
theorem sameWord_eq {name keyword other : Text} (first : Text.sameWord name keyword = true)
    (second : Text.sameWord name other = true) : Text.upper keyword = Text.upper other := by
  rw [Text.sameWord, beq_iff_eq] at first second
  exact first.symm.trans second

/-- A word that is not the keyword hides it. -/
theorem afterKeyword?_eq_none {keyword source name rest : Text} (read : word source = .ok (name, rest))
    (differs : Text.sameWord name keyword = false) : afterKeyword? keyword source = none := by
  simp [afterKeyword?, read, differs]

/-- A word that is not reserved is none of the reserved keywords. -/
theorem sameWord_of_not_reserved {name keyword : Text} (free : isReserved name = false)
    (reserved : keyword ∈ reservedWords) : Text.sameWord name keyword = false := by
  rw [isReserved, isAmong, List.any_eq_false] at free
  exact Bool.eq_false_iff.mpr (free keyword reserved)

/-- A named type starts with a word that is not reserved. -/
theorem NamedForm.unreserved {source rest : Text} {type : TypeFragment}
    (form : NamedForm source type rest) :
    ∃ name after, word source = .ok (name, after) ∧ isReserved name = false := by
  cases form with
  | plain read free _ _ => exact ⟨_, _, read, free⟩
  | sized read free _ _ _ _ => exact ⟨_, _, read, free⟩

/-- A source that a word is read from starts like a word. -/
theorem startsWord_of_word {source name rest : Text} (read : word source = .ok (name, rest)) :
    startsWord source = true := by
  obtain ⟨rfl, isName, _⟩ := word_eq_ok_iff.mp read
  cases name with
  | nil => cases isName
  | cons letter name =>
      rw [isWord, Bool.and_eq_true] at isName
      exact isName.1

/-- A source that starts with a keyword starts like a word. -/
theorem startsWord_of_keyword {keyword source rest : Text}
    (found : afterKeyword? keyword source = some rest) : startsWord source = true := by
  obtain ⟨name, read, _⟩ := afterKeyword?_eq_some_iff.mp found
  exact startsWord_of_word read

/-- A keyword at the start of a source is the word that is read there. -/
theorem afterKeyword?_of_word {keyword source name after rest : Text}
    (head : word source = .ok (name, after)) (found : afterKeyword? keyword source = some rest) :
    rest = after ∧ Text.sameWord name keyword = true := by
  obtain ⟨_, again, same⟩ := afterKeyword?_eq_some_iff.mp found
  cases head.symm.trans again
  exact ⟨rfl, same⟩

/-- The first word of a type decides which form it has. -/
theorem TypeForm.cases_word {inner : Reader TypeFragment} {source rest name after : Text}
    {fragment : TypeFragment} (form : TypeForm inner source fragment rest)
    (head : word source = .ok (name, after)) :
    (Text.sameWord name "ARRAY".toList = true ∧ ∃ element, AngleForm inner after element rest) ∨
    (Text.sameWord name "STRUCT".toList = true ∧ ∃ inside fields,
      skipTrivia after = .ok ('<' :: inside) ∧
        ListedUntil (structField inner) '>' inside fields rest) ∨
    (isReserved name = false ∧ NamedForm source fragment rest) := by
  cases form with
  | array keyword angle =>
      obtain ⟨rfl, same⟩ := afterKeyword?_of_word head keyword
      exact .inl ⟨same, _, angle⟩
  | struct keyword opens listed =>
      obtain ⟨rfl, same⟩ := afterKeyword?_of_word head keyword
      exact .inr (.inl ⟨same, _, _, opens, listed⟩)
  | named named =>
      obtain ⟨_, _, again, free⟩ := named.unreserved
      cases head.symm.trans again
      exact .inr (.inr ⟨free, named⟩)

/-- A type is read exactly when its source has one of the forms of a type. -/
theorem typeWith_eq_ok_iff {inner : Reader TypeFragment} (consumes : Consumes inner)
    {source rest : Text} {type : TypeFragment} :
    typeWith inner source = .ok (type, rest) ↔
      ∃ start, skipTrivia source = .ok start ∧ TypeForm inner start type rest := by
  constructor
  · intro read
    obtain ⟨start, skipped, read⟩ := bind_eq_ok_iff.mp read
    refine ⟨start, skipped, ?_⟩
    split at read
    · next after _ keyword =>
      obtain ⟨⟨element, left⟩, angle, same⟩ := bind_eq_ok_iff.mp read
      cases same
      exact .array keyword (angleType_eq_ok_iff.mp angle)
    · next after _ keyword =>
      obtain ⟨opening, skip, read⟩ := bind_eq_ok_iff.mp read
      obtain ⟨⟨fields, left⟩, listed, same⟩ := bind_eq_ok_iff.mp read
      cases same
      obtain ⟨inside, rfl, members⟩ := (structFields_eq_ok_iff consumes).mp listed
      exact .struct keyword skip members
    · exact .named (namedType_eq_ok_iff.mp read)
  · rintro ⟨start, skipped, form⟩
    cases form with
    | array keyword angle =>
        have angle := angleType_eq_ok_iff.mpr angle
        simp only [typeWith, skipped, keyword, angle, ok_bind, pure_eq_ok]
    | struct keyword opens listed =>
        have fields := (structFields_eq_ok_iff consumes).mpr ⟨_, rfl, listed⟩
        obtain ⟨name, read, same⟩ := afterKeyword?_eq_some_iff.mp keyword
        -- The reader looks for the other keyword first, and the word cannot be both.
        have differs : Text.sameWord name "ARRAY".toList = false := by
          refine Bool.eq_false_iff.mpr fun other => ?_
          exact absurd (sameWord_eq same other) (by decide)
        have noArray := afterKeyword?_eq_none read differs
        simp only [typeWith, skipped, noArray, keyword, opens, fields, ok_bind, pure_eq_ok]
    | named named =>
        obtain ⟨name, after, read, free⟩ := named.unreserved
        have noArray := afterKeyword?_eq_none read
          (sameWord_of_not_reserved free (show "ARRAY".toList ∈ reservedWords by decide))
        have noStruct := afterKeyword?_eq_none read
          (sameWord_of_not_reserved free (show "STRUCT".toList ∈ reservedWords by decide))
        have named := namedType_eq_ok_iff.mpr named
        simp only [typeWith, skipped, noArray, noStruct, named, ok_bind]

/-- Behind a type stands a proper end of its source. -/
theorem TypeForm.properEnd {inner : Reader TypeFragment} (consumes : Consumes inner)
    {source rest : Text} {fragment : TypeFragment} (form : TypeForm inner source fragment rest) :
    ProperEnd rest source := by
  cases form with
  | array keyword angle => exact .of_suffix (angle.suffix consumes) (afterKeyword?_properEnd keyword)
  | struct keyword opens listed =>
      exact (listed.properEnd (structField_consumes consumes)).trans
        ((skipTrivia_properEnd opens).trans (afterKeyword?_properEnd keyword))
  | named named => exact named.properEnd

/-- A type takes at least one letter when the types inside it do. -/
theorem typeWith_consumes {inner : Reader TypeFragment} (consumes : Consumes inner) :
    Consumes (typeWith inner) := by
  intro source type rest read
  obtain ⟨start, skipped, form⟩ := (typeWith_eq_ok_iff consumes).mp read
  exact (form.properEnd consumes).trans_suffix (skipTrivia_suffix skipped)

/-- A member of a struct type depends on types in sources no longer than its own. -/
theorem structField_congr {type other : Reader TypeFragment} {source : Text}
    (same : ∀ start : Text, start.length ≤ source.length → type start = other start) :
    structField type source = structField other source := by
  refine bind_congr_ok fun start skip => ?_
  have short := (skipTrivia_suffix skip).length_le
  rw [same start short]
  refine congrArg _ (bind_congr_ok fun ⟨name, after⟩ first => bind_congr_ok fun next skip => ?_)
  have shorter := (identifier_consumes _ _ _ first).2
  have shortest := (skipTrivia_suffix skip).length_le
  rw [same next (by omega)]

/-- The part between angle brackets depends only on the types of shorter sources. -/
theorem angleType_congr {type other : Reader TypeFragment} {source : Text}
    (same : ∀ start : Text, start.length < source.length → type start = other start) :
    angleType type source = angleType other source := by
  refine bind_congr_ok fun next skip => ?_
  split
  · next opens =>
    obtain ⟨inside, rfl⟩ := startsWith_iff.mp opens
    rw [List.tail_cons, same inside (skipTrivia_properEnd skip).2]
  · rfl

/-- The fields of a struct depend only on the types of shorter sources. -/
theorem structFields_congr {type other : Reader TypeFragment} (consumes : Consumes other)
    {source : Text}
    (same : ∀ start : Text, start.length < source.length → type start = other start) :
    structFields type source = structFields other source := by
  refine bind_congr_ok fun inside opens => ?_
  obtain rfl := token_eq_ok_iff.mp opens
  refine listUntil_congr (structField_consumes consumes) fun start short => ?_
  exact structField_congr fun next shorter => same next (Nat.lt_succ_of_le (shorter.trans short))

/-- A type depends on the types inside it only in sources shorter than its own. -/
theorem typeWith_congr {inner other : Reader TypeFragment} (consumes : Consumes other)
    {source : Text}
    (same : ∀ start : Text, start.length < source.length → inner start = other start) :
    typeWith inner source = typeWith other source := by
  refine bind_congr_ok fun start skip => ?_
  have short := (skipTrivia_suffix skip).length_le
  split
  · next after _ keyword =>
    have shorter := (afterKeyword?_properEnd keyword).2
    rw [angleType_congr fun next shortest => same next (by omega)]
  · next after _ keyword =>
    have shorter := (afterKeyword?_properEnd keyword).2
    refine bind_congr_ok fun opening skip => ?_
    have shortest := (skipTrivia_suffix skip).length_le
    rw [structFields_congr consumes fun next inside => same next (by omega)]
  · rfl

/-- Types nest: each level reads shorter sources with the level below it. -/
theorem type_nests : Nests typeWith typeAt where
  bottom := fun _ _ _ read => nomatch read
  step := fun _ => rfl
  consumes := fun _ consumes => typeWith_consumes consumes
  congr := fun _ _ _ consumes same => typeWith_congr consumes same

/-- A type takes at least one letter. -/
theorem type_consumes : Consumes type := fun source => type_nests.levels_consume _ source

/-- A type is read with types of any depth inside it. -/
theorem type_eq_typeWith (source : Text) : type source = typeWith type source :=
  type_nests.level_eq_outer source

/-- A type is read exactly where its form stands behind trivia. -/
theorem type_eq_ok_iff {source rest : Text} {fragment : TypeFragment} :
    type source = .ok (fragment, rest) ↔
      ∃ start, skipTrivia source = .ok start ∧ TypeForm type start fragment rest := by
  rw [type_eq_typeWith, typeWith_eq_ok_iff type_consumes]

/-- What holds of a type when it holds of the types inside it holds of every type that is read. -/
theorem type_induction {motive : Text → TypeFragment → Text → Prop}
    (step : ∀ inner : Reader TypeFragment, Consumes inner →
      (∀ source fragment rest, inner source = .ok (fragment, rest) → motive source fragment rest) →
      ∀ source start fragment rest, skipTrivia source = .ok start →
        TypeForm inner start fragment rest → motive source fragment rest)
    {source rest : Text} {fragment : TypeFragment} (read : type source = .ok (fragment, rest)) :
    motive source fragment rest := by
  refine type_nests.induction (fun inner consumes inside source fragment rest read => ?_) _ _ _ _ read
  obtain ⟨start, skipped, form⟩ := (typeWith_eq_ok_iff consumes).mp read
  exact step inner consumes inside source start fragment rest skipped form

end ParamCodec.Grammar
