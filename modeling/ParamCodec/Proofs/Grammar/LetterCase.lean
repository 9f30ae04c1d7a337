import ParamCodec.Proofs.Grammar.LikeFragments
import ParamCodec.Proofs.Text.Case

namespace ParamCodec

/-- The same name in upper case. -/
def Identifier.upper (identifier : Identifier) : Identifier :=
  ⟨Text.upper identifier.name, identifier.quoted⟩

namespace TypeFragment

mutual

/-- The same type with its names in upper case. -/
def upper : TypeFragment → TypeFragment
  | named name length => named name.upper length
  | array none => array none
  | array (some element) => array (some element.upper)
  | struct fields => struct (upperFields fields)

def upperFields : List (FieldFragment TypeFragment) → List (FieldFragment TypeFragment)
  | [] => []
  | ⟨name, none⟩ :: rest => ⟨name.map Identifier.upper, none⟩ :: upperFields rest
  | ⟨name, some type⟩ :: rest =>
    ⟨name.map Identifier.upper, some type.upper⟩ :: upperFields rest

end

/-- The first field and the others are put in upper case one by one. -/
theorem upperFields_cons (field : FieldFragment TypeFragment)
    (rest : List (FieldFragment TypeFragment)) : upperFields (field :: rest) =
      ⟨field.name.map Identifier.upper, field.type.map upper⟩ :: upperFields rest := by
  obtain ⟨name, _ | type⟩ := field <;> rfl

end TypeFragment

namespace Grammar

open Text

def Failure.upper (failure : Failure) : Failure := ⟨failure.expected, Text.upper failure.rest⟩

def Skipping.upper : Skipping → Skipping
  | .between => .between
  | .lineComment => .lineComment
  | .blockComment opening => .blockComment (Text.upper opening)

variable {α : Type}

/-- What a reader gives for a source in upper case, when it gives the result for the source. -/
def upperResult (change : α → α) (result : Except Failure α) : Except Failure α :=
  (result.map change).mapError Failure.upper

section Marks

variable {mark : Char} (noLetter : mark.isAlpha = false)

include noLetter

/-- A mark starts a text in upper case exactly when it starts the text. -/
theorem upper_eq_cons_iff {source rest : Text} :
    Text.upper source = mark :: rest ↔ ∃ inside, source = mark :: inside ∧ Text.upper inside = rest := by
  cases source with
  | nil => simp [Text.upper]
  | cons letter source => simp [upper_cons, toUpper_eq_iff noLetter]

/-- A mark starts a source of either case. -/
theorem startsWith_upper (source : Text) :
    startsWith mark (Text.upper source) = startsWith mark source := by
  rw [Bool.eq_iff_iff, startsWith_iff, startsWith_iff]
  simp only [upper_eq_cons_iff noLetter]
  constructor
  · rintro ⟨_, inside, same, _⟩
    exact ⟨inside, same⟩
  · rintro ⟨inside, same⟩
    exact ⟨_, inside, same, rfl⟩

/-- A mark splits a source of either case at the same place. -/
theorem splitAtFirst?_upper (text : Text) : splitAtFirst? mark (Text.upper text) =
    (splitAtFirst? mark text).map (Prod.map Text.upper Text.upper) := by
  have others (letter : Char) : decide (letter.toUpper ≠ mark) = decide (letter ≠ mark) := by
    rw [decide_eq_decide, ne_eq, ne_eq, toUpper_eq_iff noLetter]
  rw [splitAtFirst?, splitAtFirst?, dropWhile_upper others, takeWhile_upper others]
  cases text.dropWhile (· ≠ mark) <;> rfl

end Marks

/-- A prefix without letters is one in either case. -/
theorem isPrefixOf_upper {mark : Text} (noLetters : mark.any Char.isAlpha = false)
    (source : Text) : mark.isPrefixOf (Text.upper source) = mark.isPrefixOf source := by
  induction mark generalizing source with
  | nil => simp
  | cons first mark ih =>
      rw [List.any_cons, Bool.or_eq_false_iff] at noLetters
      cases source with
      | nil => rfl
      | cons letter source =>
          have same : (first == letter.toUpper) = (first == letter) := by
            rw [Bool.eq_iff_iff, beq_iff_eq, beq_iff_eq, eq_comm, toUpper_eq_iff noLetters.1, eq_comm]
          rw [upper_cons, List.isPrefixOf, List.isPrefixOf, same, ih noLetters.2]

/-- Trivia start in either case alike. -/
theorem startsTrivia_upper (source : Text) : startsTrivia (Text.upper source) = startsTrivia source := by
  have heads : (Text.upper source).head?.any Text.isBlank = source.head?.any Text.isBlank := by
    cases source with
    | nil => rfl
    | cons letter source =>
        rw [upper_cons, List.head?_cons, List.head?_cons, Option.any_some, Option.any_some,
          isBlank_toUpper]
  have marks : ∀ mark ∈ [['-', '-'], ['#'], ['/', '*']], mark.any Char.isAlpha = false := by decide
  have prefixes : ([['-', '-'], ['#'], ['/', '*']].any fun mark => mark.isPrefixOf (Text.upper source)) =
      [['-', '-'], ['#'], ['/', '*']].any fun mark => mark.isPrefixOf source := by
    rw [Bool.eq_iff_iff, List.any_eq_true, List.any_eq_true]
    refine exists_congr fun mark => and_congr_right fun listed => ?_
    rw [isPrefixOf_upper (marks mark listed)]
  rw [startsTrivia, startsTrivia, heads, prefixes]

/-- Comments and blanks are the same in every case of letters. -/
theorem skip_upper (state : Skipping) (source : Text) :
    skip state.upper (Text.upper source) = upperResult Text.upper (skip state source) := by
  fun_induction skip state source with
  | case1 source ih => exact ih
  | case2 source ih => exact ih
  | case3 source ih => exact ih
  | case4 letter source _ _ _ blank ih =>
      rw [upper_cons]
      exact (skip_blank _ (by rwa [isBlank_toUpper])).trans ih
  | case5 letter source noLine noHash noBlock solid =>
      have stays : skip .between (letter :: source) = .ok (letter :: source) := by
        rw [skip, if_neg solid] <;> assumption
      have starts := (skipTrivia_eq_ok_iff.mp stays).1
      rw [← startsTrivia_upper] at starts
      exact skip_of_not_startsTrivia starts
  | case6 source ih => exact ih
  | case7 letter source inside ih =>
      have noBreak : letter.toUpper ≠ '\n' := by rwa [ne_eq, toUpper_eq_iff (by decide)]
      rw [upper_cons, Skipping.upper, skip, if_neg noBreak]
      exact ih
  | case8 opening source ih => exact ih
  | case9 opening letter source inside ih =>
      rw [upper_cons, Skipping.upper, skip]
      · exact ih
      · intro rest star closed
        obtain ⟨more, same, _⟩ := (upper_eq_cons_iff (by decide)).mp closed
        exact inside more ((toUpper_eq_iff (by decide) letter).mp star) same
  | case10 opening => rfl
  | case11 => rfl
  | case12 => rfl

/-- Skipping trivia does the same in either case. -/
theorem skipTrivia_upper (source : Text) :
    skipTrivia (Text.upper source) = upperResult Text.upper (skipTrivia source) :=
  skip_upper .between source

/-- The letters that start words do so in either case. -/
theorem isWordStart_toUpper (letter : Char) :
    Identifier.isWordStart letter.toUpper = Identifier.isWordStart letter :=
  ignoresCase _ (by decide) letter

/-- The letters that go on with words do so in either case. -/
theorem isWordPart_toUpper (letter : Char) :
    Identifier.isWordPart letter.toUpper = Identifier.isWordPart letter :=
  ignoresCase _ (by decide) letter

/-- Words start in either case alike. -/
theorem startsWord_upper (source : Text) : startsWord (Text.upper source) = startsWord source := by
  cases source with
  | nil => rfl
  | cons letter source => exact isWordStart_toUpper letter

/-- A word of the source in upper case is the word of the source in upper case. -/
theorem word_upper (source : Text) :
    word (Text.upper source) = upperResult (Prod.map Text.upper Text.upper) (word source) := by
  cases source with
  | nil => rfl
  | cons letter source =>
      rw [upper_cons, word, word, isWordStart_toUpper, takeWhile_upper isWordPart_toUpper,
        dropWhile_upper isWordPart_toUpper]
      split <;> rfl

/-- Keywords are found in either case. -/
theorem afterKeyword?_upper (keyword source : Text) :
    afterKeyword? keyword (Text.upper source) = (afterKeyword? keyword source).map Text.upper := by
  rw [afterKeyword?, afterKeyword?, word_upper]
  cases word source with
  | error _ => rfl
  | ok pair =>
      obtain ⟨name, rest⟩ := pair
      change (if sameWord (Text.upper name) keyword then _ else _) = _
      rw [sameWord_upper]
      dsimp only
      split <;> rfl

/-- A name that starts with no backquote is a word. -/
theorem identifier_plain {source : Text} (plain : ∀ inside, source ≠ '\x60' :: inside) :
    identifier source = (word source).map fun found => (⟨found.1, false⟩, found.2) := by
  unfold identifier
  split
  · next inside => exact absurd rfl (plain inside)
  · rfl

/-- A name of the source in upper case is the name of the source in upper case. -/
theorem identifier_upper (source : Text) : identifier (Text.upper source) =
    upperResult (Prod.map Identifier.upper Text.upper) (identifier source) := by
  by_cases opens : ∃ inside, source = '\x60' :: inside
  · obtain ⟨inside, rfl⟩ := opens
    change identifier ('\x60' :: Text.upper inside) = _
    rw [identifier, identifier, splitAtFirst?_upper (by decide)]
    rcases splitAtFirst? '\x60' inside with _ | ⟨_ | ⟨letter, name⟩, rest⟩ <;> rfl
  · have upperPlain : ∀ inside, Text.upper source ≠ '\x60' :: inside := by
      intro inside same
      obtain ⟨inside, same, _⟩ := (upper_eq_cons_iff (by decide)).mp same
      exact opens ⟨inside, same⟩
    rw [identifier_plain fun inside same => opens ⟨inside, same⟩, identifier_plain upperPlain, word_upper]
    cases word source <;> rfl

/-- Digits denote the same number in either case. -/
theorem decimalValue_upper (digits : Text) : decimalValue (Text.upper digits) = decimalValue digits := by
  have value (letter : Char) : (digitValue? 10 letter.toUpper).getD 0 = (digitValue? 10 letter).getD 0 :=
    ignoresCase (fun letter => (digitValue? 10 letter).getD 0) (by decide) letter
  simp only [decimalValue, Text.upper, List.foldl_map, value]

/-- A length is the same in either case. -/
theorem typeLength_upper (source : Text) :
    typeLength (Text.upper source) = upperResult (Prod.map id Text.upper) (typeLength source) := by
  rw [typeLength, typeLength, afterKeyword?_upper]
  cases afterKeyword? "MAX".toList source with
  | some rest => rfl
  | none =>
      simp only [Option.map_none, takeWhile_upper isDigit_toUpper, dropWhile_upper isDigit_toUpper,
        decimalValue_upper, isEmpty_upper]
      split
      · rfl
      · split <;> rfl

/-- Readings of two sources that differ in the case of letters only. -/
def ignoringCase : Likeness where
  texts := fun source other => Text.upper source = Text.upper other
  words := fun name other => Text.upper name = Text.upper other
  failures := fun failure other => failure.upper = other.upper

/-- Results that agree in upper case are alike when case is ignored. -/
theorem alike_of_upperResult {change : α → α} {first other : Except Failure α}
    (same : upperResult change first = upperResult change other) :
    Alike ignoringCase.failures (fun value found => change value = change found) first other := by
  cases first with
  | ok value =>
      cases other with
      | ok found => exact .ok (Except.ok.inj same)
      | error failure => cases same
  | error failure =>
      cases other with
      | ok found => cases same
      | error other => exact .error (Except.error.inj same)

/-- A reader that does the same in upper case reads alike when case is ignored. -/
theorem reads_ignoringCase {reader : Reader α} {change : α → α}
    (upper : ∀ source, reader (Text.upper source) =
      upperResult (Prod.map change Text.upper) (reader source)) :
    ignoringCase.Reads (fun value found => change value = change found) reader := by
  intro source other same
  have results : upperResult (Prod.map change Text.upper) (reader source) =
      upperResult (Prod.map change Text.upper) (reader other) := by
    rw [← upper, ← upper]
    exact congrArg reader same
  refine (alike_of_upperResult results).imp fun (value, rest) (found, left) alike => ?_
  obtain ⟨values, rests⟩ := Prod.mk.inj alike
  exact ⟨values, rests⟩

/-- Optional values that are alike agree after a change that alike values agree after. -/
theorem map_eq_of_rel {values : α → α → Prop} {change : α → α} {first second : Option α}
    (alike : Option.Rel values first second)
    (same : ∀ value found, values value found → change value = change found) :
    first.map change = second.map change := by
  cases alike with
  | none => rfl
  | some alike => exact congrArg some (same _ _ alike)

/-- Names that are alike when case is ignored agree in upper case. -/
theorem upper_eq_of_names {name other : Identifier} (alike : ignoringCase.Names name other) :
    name.upper = other.upper :=
  (Identifier.mk.injEq ..).mpr alike.symm

/-- Ignoring case keeps the marks, the keywords and the words. -/
theorem ignoringCase_keepsWords : ignoringCase.KeepsWords where
  fails := fun _ _ expected same => congrArg (Failure.mk expected) same
  startsWith := by
    intro source other same mark isMark
    have noLetter : mark.isAlpha = false := none_of_mem isMark (by decide)
    rw [← startsWith_upper noLetter source, ← startsWith_upper noLetter other]
    exact congrArg (Grammar.startsWith mark) same
  tail := by
    intro source other same _ _ _
    change Text.upper source.tail = Text.upper other.tail
    rw [upper_tail, upper_tail]
    exact congrArg List.tail same
  startsWord := by
    intro source other same
    rw [← startsWord_upper source, ← startsWord_upper other]
    exact congrArg Grammar.startsWord same
  skips := by
    intro source other same
    have results : upperResult Text.upper (skipTrivia source) = upperResult Text.upper (skipTrivia other) := by
      rw [← skipTrivia_upper, ← skipTrivia_upper]
      exact congrArg skipTrivia same
    refine (alike_of_upperResult results).imp fun rest left alike => ⟨alike, ?_⟩
    rw [← isEmpty_upper rest, ← isEmpty_upper left, alike]
  keyword := by
    intro name other same
    rw [← sameWord_upper name, ← sameWord_upper other]
    exact congrArg sameWord same
  word := reads_ignoringCase word_upper
  identifier := (reads_ignoringCase identifier_upper).imp fun _ _ same =>
    (Identifier.mk.inj same).symm
  length := reads_ignoringCase typeLength_upper

/-- Types that differ in the case of their names are built from such parts. -/
theorem ignoringCase_builds :
    ignoringCase.Builds fun fragment other => fragment.upper = other.upper where
  named := by
    intro name other length same
    change TypeFragment.named ⟨Text.upper name, false⟩ length = .named ⟨Text.upper other, false⟩ length
    rw [show Text.upper name = Text.upper other from same]
  array := by
    intro element other same
    cases same with
    | none => rfl
    | some same => exact congrArg (fun type => TypeFragment.array (some type)) same
  struct := by
    intro fields others same
    refine congrArg TypeFragment.struct ?_
    induction same with
    | nil => rfl
    | cons same _ ih =>
        have names := map_eq_of_rel same.1 fun _ _ => upper_eq_of_names
        have types := map_eq_of_rel same.2 fun _ _ alike => alike
        rw [TypeFragment.upperFields_cons, TypeFragment.upperFields_cons, ih, names, types]

end Grammar

end ParamCodec
