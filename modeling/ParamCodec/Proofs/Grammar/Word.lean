import ParamCodec.Proofs.Grammar.Trivia

namespace ParamCodec

/-- A letter or an underscore, then letters, digits and underscores. -/
def isWord : Text → Bool
  | letter :: rest => Identifier.isWordStart letter && rest.all Identifier.isWordPart
  | [] => false

/-- A name that can be written: a word, or anything but a backquote between backquotes. -/
def Identifier.isValid (identifier : Identifier) : Bool :=
  if identifier.quoted then !identifier.name.isEmpty && !identifier.name.contains '\x60'
  else isWord identifier.name

/-- A quoted name may be any text that is not empty and holds no backquote. -/
theorem Identifier.isValid_quoted {name : Text} :
    Identifier.isValid ⟨name, true⟩ = true ↔ name ≠ [] ∧ '\x60' ∉ name := by
  simp [isValid]

namespace Grammar

@[simp] theorem ok_bind {ε α β : Type} (value : α) (next : α → Except ε β) :
    (Except.ok value >>= next) = next value := rfl

@[simp] theorem error_bind {ε α β : Type} (failure : ε) (next : α → Except ε β) :
    (Except.error failure >>= next) = .error failure := rfl

@[simp] theorem pure_eq_ok {ε α : Type} (value : α) : (pure value : Except ε α) = .ok value := rfl

/-- Two steps succeed exactly when the first has a result and the next succeeds on it. -/
theorem bind_eq_ok_iff {ε α β : Type} {first : Except ε α} {next : α → Except ε β} {result : β} :
    (first >>= next) = .ok result ↔ ∃ value, first = .ok value ∧ next value = .ok result := by
  cases first <;> simp

/-- The text does not go on with a letter of the kind. -/
def EndsRun (kind : Char → Bool) (text : Text) : Prop := ∀ letter ∈ text.head?, kind letter = false

/-- A run stops in front of two texts when it stops in front of either. -/
theorem EndsRun.append {kind : Char → Bool} {first second : Text} (firstEnds : EndsRun kind first)
    (secondEnds : EndsRun kind second) : EndsRun kind (first ++ second) := by
  cases first with
  | nil => exact secondEnds
  | cons letter first => exact firstEnds

/-- A letter of another kind stops the run. -/
theorem endsRun_cons {kind : Char → Bool} {letter : Char} (rest : Text) (ends : kind letter = false) :
    EndsRun kind (letter :: rest) := by
  intro found same
  cases same
  exact ends

/-- A run of fewer letters stops wherever the longer one does. -/
theorem endsRun_of_imp {kind other : Char → Bool} {text : Text} (ends : EndsRun kind text)
    (imp : ∀ letter, other letter = true → kind letter = true) : EndsRun other text := by
  intro letter found
  have stops := ends letter found
  refine Bool.eq_false_iff.mpr fun goesOn => ?_
  rw [imp letter goesOn] at stops
  cases stops

/-- A run of letters of a kind is as long as it can be. -/
theorem run_eq_iff {kind : Char → Bool} {source run rest : Text} :
    source.takeWhile kind = run ∧ source.dropWhile kind = rest ↔
      source = run ++ rest ∧ run.all kind = true ∧ EndsRun kind rest := by
  constructor
  · rintro ⟨rfl, rfl⟩
    refine ⟨List.takeWhile_append_dropWhile.symm, by simp, ?_⟩
    intro letter found
    have kept := List.head?_dropWhile_not kind source
    simp_all
  · rintro ⟨rfl, all, ends⟩
    rw [List.all_eq_true] at all
    rw [List.takeWhile_append_of_pos all, List.dropWhile_append_of_pos all]
    cases rest with
    | nil => simp
    | cons letter rest => simp [ends letter rfl]

/-- A letter that may start a word may also go on with it. -/
theorem isWordPart_of_isWordStart {letter : Char} (start : Identifier.isWordStart letter = true) :
    Identifier.isWordPart letter = true := by
  simp only [Identifier.isWordStart, Identifier.isWordPart, Char.isAlphanum, Bool.or_eq_true] at start ⊢
  tauto

theorem toNat_of_isUpper {letter : Char} (upper : letter.isUpper = true) :
    65 ≤ letter.toNat ∧ letter.toNat ≤ 90 :=
  of_decide_eq_true upper

theorem toNat_of_isLower {letter : Char} (lower : letter.isLower = true) :
    97 ≤ letter.toNat ∧ letter.toNat ≤ 122 :=
  (Bool.and_eq_true_iff.mp lower).imp of_decide_eq_true of_decide_eq_true

/-- A letter of the alphabet is of one of the two cases. -/
theorem isAlpha_iff {letter : Char} :
    letter.isAlpha = true ↔ letter.isUpper = true ∨ letter.isLower = true :=
  Bool.or_eq_true_iff

/-- The letters of words lie in three ranges of code points, beside the underscore. -/
theorem toNat_of_isWordPart {letter : Char} (part : Identifier.isWordPart letter = true) :
    (48 ≤ letter.toNat ∧ letter.toNat ≤ 57) ∨ (65 ≤ letter.toNat ∧ letter.toNat ≤ 90) ∨
      letter.toNat = 95 ∨ (97 ≤ letter.toNat ∧ letter.toNat ≤ 122) := by
  simp only [Identifier.isWordPart, Char.isAlphanum, Bool.or_eq_true, isAlpha_iff,
    beq_iff_eq] at part
  rcases part with ((upper | lower) | digit) | rfl
  · exact .inr (.inl (toNat_of_isUpper upper))
  · exact .inr (.inr (.inr (toNat_of_isLower lower)))
  · exact .inl (Char.isDigit_iff_toNat.mp digit)
  · exact .inr (.inr (.inl rfl))

/-- A digit may go on with a word. -/
theorem isWordPart_of_isDigit {letter : Char} (digit : letter.isDigit = true) :
    Identifier.isWordPart letter = true := by
  simp [Identifier.isWordPart, Char.isAlphanum, digit]

/-- A word does not start with a digit. -/
theorem isWordStart_of_isDigit {letter : Char} (digit : letter.isDigit = true) :
    Identifier.isWordStart letter = false := by
  refine Bool.eq_false_iff.mpr fun start => ?_
  simp only [Identifier.isWordStart, Bool.or_eq_true, isAlpha_iff, beq_iff_eq] at start
  have range : 48 ≤ letter.toNat ∧ letter.toNat ≤ 57 := Char.isDigit_iff_toNat.mp digit
  rcases start with (upper | lower) | rfl
  · have above := toNat_of_isUpper upper
    omega
  · have above := toNat_of_isLower lower
    omega
  · revert range
    decide

/-- No trivia starts with a letter of a word. -/
theorem isWordPart_solid {letter : Char} (part : Identifier.isWordPart letter = true) :
    (Text.isBlank letter || ['-', '#', '/'].contains letter) = false := by
  have range := toNat_of_isWordPart part
  have noBlank : Text.isBlank letter = false := by
    simp only [Text.isBlank, Text.inRanges, Text.blankRanges, List.any_cons, List.any_nil,
      Bool.or_false, Bool.or_eq_false_iff, Bool.and_eq_false_iff, decide_eq_false_iff_not]
    omega
  rw [noBlank, Bool.false_or]
  refine Bool.eq_false_iff.mpr fun mark => ?_
  have noPart : Identifier.isWordPart letter = false :=
    none_of_mem (List.contains_iff_mem.mp mark) (by decide)
  rw [noPart] at part
  cases part

/-- A word stops in front of whatever breaks words. -/
theorem breaks_endsRun {more : Text} (breaks : Breaks more) :
    EndsRun Identifier.isWordPart more := by
  intro letter found
  have ends := breaks letter found
  simp only [isBreak, Bool.not_eq_true', Bool.or_eq_false_iff] at ends
  exact ends.1

/-- All letters of a word are letters that words go on with. -/
theorem isWordPart_of_isWord {name : Text} (isName : isWord name = true) :
    name.all Identifier.isWordPart = true := by
  cases name with
  | nil => cases isName
  | cons letter name =>
      rw [isWord, Bool.and_eq_true] at isName
      rw [List.all_cons, isWordPart_of_isWordStart isName.1, isName.2]
      rfl

/-- A word is read up to the first letter that cannot be part of it. -/
theorem word_eq_ok_iff {source name rest : Text} :
    word source = .ok (name, rest) ↔
      source = name ++ rest ∧ isWord name = true ∧ EndsRun Identifier.isWordPart rest := by
  cases source with
  | nil =>
      simp only [word, reduceCtorEq, false_iff]
      rintro ⟨empty, isName, _⟩
      obtain ⟨rfl, _⟩ := List.append_eq_nil_iff.mp empty.symm
      cases isName
  | cons letter source =>
      -- The first letter of a word is that of the source; both directions need it.
      have whole_cons : ∀ {first : Char} {name : Text}, letter :: source = first :: name ++ rest →
          isWord (first :: name) = true → letter = first ∧ source = name ++ rest ∧
            Identifier.isWordStart letter = true ∧ name.all Identifier.isWordPart = true := by
        intro first name whole isName
        obtain ⟨rfl, same⟩ := List.cons_eq_cons.mp whole
        rw [isWord, Bool.and_eq_true] at isName
        exact ⟨rfl, same, isName⟩
      simp only [word]
      split
      · next start =>
        simp only [Except.ok.injEq, Prod.mk.injEq]
        constructor
        · rintro ⟨rfl, left⟩
          obtain ⟨whole, all, ends⟩ := run_eq_iff.mp ⟨rfl, left⟩
          exact ⟨congrArg (letter :: ·) whole, by rw [isWord, start, all]; rfl, ends⟩
        · rintro ⟨whole, isName, ends⟩
          cases name with
          | nil => cases isName
          | cons first name =>
              obtain ⟨rfl, whole, _, all⟩ := whole_cons whole isName
              obtain ⟨taken, left⟩ := run_eq_iff.mpr ⟨whole, all, ends⟩
              exact ⟨congrArg (letter :: ·) taken, left⟩
      · next other =>
        simp only [reduceCtorEq, false_iff]
        rintro ⟨whole, isName, _⟩
        cases name with
        | nil => cases isName
        | cons first name => exact other (whole_cons whole isName).2.2.1

/-- A keyword is found when the first word differs from it in case at most. -/
theorem afterKeyword?_eq_some_iff {keyword source rest : Text} :
    afterKeyword? keyword source = some rest ↔
      ∃ name, word source = .ok (name, rest) ∧ Text.sameWord name keyword = true := by
  unfold afterKeyword?
  split
  · next found after read => simp [read, and_comm]
  · next failure read => simp [read]

/-- A keyword is found in front of anything that is not part of its word. -/
theorem afterKeyword?_append {keyword rest : Text} (isName : isWord keyword = true)
    (ends : EndsRun Identifier.isWordPart rest) :
    afterKeyword? keyword (keyword ++ rest) = some rest :=
  afterKeyword?_eq_some_iff.mpr
    ⟨keyword, word_eq_ok_iff.mpr ⟨rfl, isName, ends⟩, beq_self_eq_true _⟩

/-- A token is read exactly where its letter stands. -/
theorem token_eq_ok_iff {letter : Char} {source rest : Text} :
    token letter source = .ok rest ↔ source = letter :: rest := by
  cases source with
  | nil => simp [token]
  | cons found source =>
      by_cases same : found = letter <;> simp [token, same]

/-- A source starts with a letter when the letter is its head. -/
theorem startsWith_iff {letter : Char} {source : Text} :
    startsWith letter source = true ↔ ∃ rest, source = letter :: rest := by
  cases source <;> simp [startsWith]

/-- What stands behind a token is the rest of a text that starts with it. -/
theorem after?_eq_some_iff {token text rest : Text} :
    Text.after? token text = some rest ↔ text = token ++ rest := by
  induction token generalizing text with
  | nil => simp [Text.after?, eq_comm]
  | cons expected token ih =>
      cases text with
      | nil => simp [Text.after?]
      | cons found text =>
          by_cases same : expected = found
          · simp [Text.after?, same, ih]
          · simp [Text.after?, same, Ne.symm same]

/-- A name without quotes is written as it is. -/
theorem sql_eq_name {identifier : Identifier} (plain : identifier.quoted = false) :
    identifier.sql = identifier.name := by
  simp [Identifier.sql, plain]

/-- A name without backquotes has nothing to escape. -/
theorem escaped_of_not_mem {name : Text} (free : '\x60' ∉ name) :
    name.flatMap Identifier.escaped = name := by
  induction name with
  | nil => rfl
  | cons letter name ih =>
      rw [List.mem_cons, not_or] at free
      rw [List.flatMap_cons, ih free.2, Identifier.escaped, if_neg (Ne.symm free.1)]
      rfl

/-- A quoted name without backquotes is written between two of them. -/
theorem sql_of_quoted {name : Text} (free : '\x60' ∉ name) :
    Identifier.sql ⟨name, true⟩ = '\x60' :: name ++ ['\x60'] := by
  simp [Identifier.sql, escaped_of_not_mem free]

/-- A text is split at the only place that has no such letter in front of it. -/
theorem splitAtFirst?_eq_some_iff {letter : Char} {text before after : Text} :
    Text.splitAtFirst? letter text = some (before, after) ↔
      text = before ++ letter :: after ∧ letter ∉ before := by
  have ends : EndsRun (fun found => decide (found ≠ letter)) (letter :: after) := by
    intro found same
    cases same
    simp
  constructor
  · intro split
    unfold Text.splitAtFirst? at split
    cases left : text.dropWhile (· ≠ letter) with
    | nil => rw [left] at split; cases split
    | cons found rest =>
        rw [left] at split
        obtain ⟨taken, rfl⟩ := Prod.mk.inj (Option.some.inj split)
        obtain ⟨whole, all, stops⟩ := run_eq_iff.mp ⟨taken, left⟩
        obtain rfl : found = letter := by simpa using stops found rfl
        exact ⟨whole, fun inside => by simpa using List.all_eq_true.mp all found inside⟩
  · rintro ⟨whole, free⟩
    have all : before.all (fun found => decide (found ≠ letter)) = true := by
      rw [List.all_eq_true]
      intro found inside
      simp only [decide_eq_true_eq]
      rintro rfl
      exact free inside
    obtain ⟨taken, left⟩ := run_eq_iff.mpr ⟨whole, all, ends⟩
    rw [Text.splitAtFirst?, left, taken]

/-- A text without the letter has no place to be split at. -/
theorem splitAtFirst?_eq_none_iff {letter : Char} {text : Text} :
    Text.splitAtFirst? letter text = none ↔ letter ∉ text := by
  rw [Option.eq_none_iff_forall_ne_some]
  constructor
  · intro none inside
    obtain ⟨before, after, whole, free⟩ := List.eq_append_cons_of_mem inside
    exact none (before, after) (splitAtFirst?_eq_some_iff.mpr ⟨whole, free⟩)
  · rintro free ⟨before, after⟩ split
    obtain ⟨rfl, _⟩ := splitAtFirst?_eq_some_iff.mp split
    exact free (by simp)

/-- An identifier is read exactly as it is written. -/
theorem identifier_eq_ok_iff {source rest : Text} {name : Identifier} :
    identifier source = .ok (name, rest) ↔
      source = name.sql ++ rest ∧ name.isValid = true ∧
        (name.quoted = false → EndsRun Identifier.isWordPart rest) := by
  obtain ⟨name, quoted⟩ := name
  constructor
  · intro read
    unfold identifier at read
    split at read
    · next inside =>
      split at read
      · next letter found after split =>
        obtain ⟨rfl, free⟩ := splitAtFirst?_eq_some_iff.mp split
        cases read
        rw [sql_of_quoted free]
        simp [Identifier.isValid, free]
      · cases read
    · cases found : word source with
      | error failure => rw [found] at read; cases read
      | ok pair =>
          rw [found] at read
          cases read
          obtain ⟨rfl, isName, ends⟩ := word_eq_ok_iff.mp found
          exact ⟨rfl, isName, fun _ => ends⟩
  · rintro ⟨rfl, valid, ends⟩
    cases quoted with
    | true =>
        obtain ⟨stands, free⟩ := Identifier.isValid_quoted.mp valid
        obtain ⟨letter, name, rfl⟩ := List.exists_cons_of_ne_nil stands
        have split : Text.splitAtFirst? '\x60' (letter :: name ++ '\x60' :: rest) =
            some (letter :: name, rest) := splitAtFirst?_eq_some_iff.mpr ⟨rfl, free⟩
        rw [sql_of_quoted free, List.append_assoc]
        change identifier ('\x60' :: (letter :: name ++ '\x60' :: rest)) = _
        simp only [identifier, split]
    | false =>
        have found := word_eq_ok_iff.mpr ⟨rfl, valid, ends rfl⟩
        rw [sql_eq_name rfl]
        unfold identifier
        split
        · next inside same =>
          rw [same] at found
          cases found
        · rw [found]; rfl

/-- A word is read as a name without quotes. -/
theorem identifier_of_word {source name rest : Text} (read : word source = .ok (name, rest)) :
    identifier source = .ok (⟨name, false⟩, rest) := by
  obtain ⟨rfl, isName, ends⟩ := word_eq_ok_iff.mp read
  exact identifier_eq_ok_iff.mpr ⟨rfl, isName, fun _ => ends⟩

/-- A name that is read without quotes is a word. -/
theorem word_of_identifier {source rest : Text} {name : Identifier}
    (read : identifier source = .ok (name, rest)) (plain : name.quoted = false) :
    word source = .ok (name.name, rest) := by
  obtain ⟨rfl, valid, ends⟩ := identifier_eq_ok_iff.mp read
  obtain ⟨name, quoted⟩ := name
  cases plain
  exact word_eq_ok_iff.mpr ⟨rfl, valid, ends rfl⟩

/-- No trivia stands in front of a word. -/
theorem skipTrivia_word {name : Text} (isName : isWord name = true) (rest : Text) :
    skipTrivia (name ++ rest) = .ok (name ++ rest) := by
  cases name with
  | nil => cases isName
  | cons letter name =>
      rw [isWord, Bool.and_eq_true] at isName
      exact skipTrivia_solid _ (isWordPart_solid (isWordPart_of_isWordStart isName.1))

/-- A valid name starts with no trivia. -/
theorem skipTrivia_name {name : Identifier} (valid : name.isValid = true) (rest : Text) :
    skipTrivia (name.sql ++ rest) = .ok (name.sql ++ rest) := by
  obtain ⟨name, quoted⟩ := name
  cases quoted with
  | true => exact skipTrivia_solid _ (by decide)
  | false =>
      rw [sql_eq_name rfl]
      exact skipTrivia_word valid rest

end Grammar

end ParamCodec
