import ParamCodec.Proofs.Grammar.LikeExpressions

namespace ParamCodec.Grammar

variable {α : Type}

/-- What a reader misses, it misses at an end of its source. -/
def FailsInside (reader : Reader α) : Prop :=
  ∀ source failure, reader source = .error failure → failure.rest <:+ source

/-- A comment without an end is missed at its opening. -/
theorem skip_fails {state : Skipping} {source whole : Text} {failure : Failure}
    (inside : source <:+ whole) (opened : ∀ opening, state = .blockComment opening → opening <:+ whole)
    (failed : skip state source = .error failure) : failure.rest <:+ whole := by
  fun_induction skip state source with
  | case1 source ih =>
      exact ih ((List.suffix_append ['-', '-'] source).trans inside) (by simp) failed
  | case2 source ih => exact ih ((List.suffix_cons '#' source).trans inside) (by simp) failed
  | case3 source ih =>
      refine ih ((List.suffix_append ['/', '*'] source).trans inside) ?_ failed
      rintro _ ⟨⟩
      exact inside
  | case4 letter source _ _ _ _ ih =>
      exact ih ((List.suffix_cons letter source).trans inside) (by simp) failed
  | case5 => cases failed
  | case6 source ih => exact ih ((List.suffix_cons '\n' source).trans inside) (by simp) failed
  | case7 letter source _ ih =>
      exact ih ((List.suffix_cons letter source).trans inside) (by simp) failed
  | case8 opening source ih =>
      exact ih ((List.suffix_append ['*', '/'] source).trans inside) (by simp) failed
  | case9 opening letter source _ ih =>
      exact ih ((List.suffix_cons letter source).trans inside) opened failed
  | case10 opening =>
      cases failed
      exact opened opening rfl
  | case11 => cases failed
  | case12 => cases failed

/-- A comment without an end is missed at an end of the source. -/
theorem skipTrivia_failsInside {source : Text} {failure : Failure}
    (failed : skipTrivia source = .error failure) : failure.rest <:+ source :=
  skip_fails List.suffix_rfl (by rintro _ ⟨⟩) failed

/-- A word is missed at an end of the source. -/
theorem word_failsInside : FailsInside word := by
  intro source failure failed
  unfold word at failed
  split at failed
  · split at failed <;> cases failed
    exact List.suffix_rfl
  · cases failed
    exact List.suffix_rfl

/-- A name is missed at an end of the source. -/
theorem identifier_failsInside : FailsInside identifier := by
  intro source failure failed
  unfold identifier at failed
  split at failed
  · split at failed <;> cases failed
    exact List.suffix_rfl
  · refine word_failsInside _ _ ?_
    cases read : word source <;> rw [read] at failed <;> cases failed
    rfl

/-- A length is missed at an end of the source. -/
theorem typeLength_failsInside : FailsInside typeLength := by
  intro source failure failed
  unfold typeLength at failed
  split at failed
  · cases failed
  · dsimp only at failed
    split at failed
    · cases failed
      exact List.suffix_rfl
    · split at failed <;> cases failed
      exact List.dropWhile_suffix _

/-- Two steps fail exactly when the first fails or the next fails on its result. -/
theorem bind_eq_error_iff {ε α β : Type} {first : Except ε α} {next : α → Except ε β} {failure : ε} :
    (first >>= next) = .error failure ↔
      first = .error failure ∨ ∃ value, first = .ok value ∧ next value = .error failure := by
  cases first <;> simp

namespace Number

/-- The end of a number is missed where the number goes on. -/
theorem boundary_fails {rest : Text} {failure : Failure} (failed : boundary rest = .error failure) :
    failure.rest = rest := by
  unfold boundary at failed
  split at failed
  · split at failed <;> cases failed
    rfl
  · cases failed

/-- A decimal number is missed at an end of the source. -/
theorem decimal_fails {source sign body : Text} {failure : Failure} (inside : body <:+ source)
    (failed : decimal source sign body = .error failure) : failure.rest <:+ source := by
  unfold decimal at failed
  obtain ⟨⟨places, behind⟩, pointed⟩ : ∃ pair,
    fraction (body.takeWhile Char.isDigit) (body.dropWhile Char.isDigit) = pair := ⟨_, rfl⟩
  obtain ⟨⟨power, left⟩, scaled⟩ : ∃ pair, exponent behind = pair := ⟨_, rfl⟩
  simp only [pointed, scaled] at failed
  split at failed
  · cases failed
    exact List.suffix_rfl
  · rcases bind_eq_error_iff.mp failed with bounded | ⟨_, _, failed⟩
    · rw [boundary_fails bounded]
      have splits := (fraction_sound pointed).1
      have exponent := (exponent_sound scaled).1
      calc left <:+ behind := exponent ▸ List.suffix_append power left
        _ <:+ body.dropWhile Char.isDigit := splits ▸ List.suffix_append places behind
        _ <:+ body := List.dropWhile_suffix _
        _ <:+ source := inside
    · cases failed

/-- A number is missed at an end of the source. -/
theorem literal_failsInside : FailsInside literal := by
  intro source failure failed
  obtain ⟨⟨sign, body⟩, split⟩ : ∃ pair, Text.splitSign source = pair := ⟨_, rfl⟩
  obtain ⟨rfl, signed⟩ := splitSign_sound split
  simp only [literal, split] at failed
  cases found : hexDigits? body with
  | none =>
      rw [found] at failed
      exact decimal_fails (List.suffix_append sign body) failed
  | some pair =>
      obtain ⟨digits, rest⟩ := pair
      obtain ⟨mark, _, rfl, _⟩ := hexDigits?_eq_some_iff.mp found
      rw [found] at failed
      rcases bind_eq_error_iff.mp failed with bounded | ⟨_, _, failed⟩
      · rw [boundary_fails bounded]
        exact ⟨sign ++ '0' :: mark :: digits, by simp⟩
      · cases failed

end Number

namespace Quoted

/-- A unit of a quoted literal is missed at an end of the source. -/
theorem unit_failsInside (opening : Opening) : FailsInside (unit opening) := by
  intro source failure failed
  unfold unit at failed
  split at failed
  · cases failed
    exact List.suffix_rfl
  · split at failed
    · split at failed
      · split at failed <;> cases failed
      · split at failed <;> cases failed
        exact List.suffix_rfl
    · split at failed <;> cases failed
      exact List.suffix_rfl

/-- A body of a quoted literal is missed at an end of the source. -/
theorem body_failsInside (opening : Opening) (steps : Nat) : FailsInside (body opening steps) := by
  induction steps with
  | zero =>
      intro source failure failed
      cases failed
      exact List.suffix_rfl
  | succ steps ih =>
      intro source failure failed
      rw [body] at failed
      split at failed
      · cases failed
      · rcases bind_eq_error_iff.mp failed with first | ⟨⟨bytes, rest⟩, first, failed⟩
        · exact unit_failsInside opening _ _ first
        · rcases bind_eq_error_iff.mp failed with others | ⟨_, _, failed⟩
          · exact (ih _ _ others).trans (unit_consumes opening _ _ _ first).1
          · cases failed

/-- Behind an opening stands an end of the source. -/
theorem opening?_suffix {source inside : Text} {opening : Opening}
    (found : opening? source = some (opening, inside)) : inside <:+ source := by
  obtain ⟨taken, start, rfl, _, _, quoted⟩ := opening?_eq_some_iff.mp found
  refine List.IsSuffix.trans ?_ (List.suffix_append taken start)
  generalize opening.triple = triple at quoted
  cases quoted with
  | triple => exact List.suffix_append [opening.mark, opening.mark, opening.mark] inside
  | single _ => exact List.suffix_cons _ _

/-- A quoted literal is missed at an end of the source. -/
theorem literal_failsInside : FailsInside literal := by
  intro source failure failed
  unfold literal at failed
  split at failed
  · cases failed
    exact List.suffix_rfl
  · next opening inside starts =>
    have opened := opening?_suffix starts
    rcases bind_eq_error_iff.mp failed with unread | ⟨⟨content, rest⟩, read, failed⟩
    · exact (body_failsInside opening _ _ _ unread).trans opened
    · dsimp only at failed
      split at failed
      · cases failed
      · split at failed <;> cases failed
        exact (body_eq_ok_iff.mp read).suffix.trans opened

end Quoted

/-- Two readings of one text, that go on and fail at ends of it. -/
def within (text : Text) : Likeness where
  texts := fun source other => source = other ∧ source <:+ text
  words := Eq
  failures := fun failure other => failure = other ∧ failure.rest <:+ text

/-- A reader that goes on and fails at ends of its source does so within any text. -/
theorem reads_within (text : Text) {reader : Reader α} (fails : FailsInside reader)
    (goesOn : ∀ source value rest, reader source = .ok (value, rest) → rest <:+ source) :
    (within text).Reads Eq reader := by
  rintro source _ ⟨rfl, inside⟩
  cases read : reader source with
  | ok pair =>
      obtain ⟨value, rest⟩ := pair
      exact .ok ⟨rfl, rfl, (goesOn _ _ _ read).trans inside⟩
  | error failure => exact .error ⟨rfl, (fails _ _ read).trans inside⟩

/-- Behind a length stands an end of the source. -/
theorem LengthForm.suffix {source rest : Text} {length : TypeLength}
    (form : LengthForm source length rest) : rest <:+ source := by
  cases form with
  | maximum keyword => exact (afterKeyword?_properEnd keyword).1
  | fixed _ whole _ _ _ _ => exact whole ▸ List.suffix_append _ rest

/-- Readings at ends of one text keep its marks and its words. -/
theorem within_keepsWords (text : Text) : (within text).KeepsWords where
  fails := by
    rintro source _ expected ⟨rfl, inside⟩
    exact ⟨rfl, inside⟩
  startsWith := by
    rintro source _ ⟨rfl, _⟩ mark _
    rfl
  tail := by
    rintro source _ ⟨rfl, inside⟩ mark _ _
    exact ⟨rfl, (List.tail_suffix source).trans inside⟩
  startsWord := by
    rintro source _ ⟨rfl, _⟩
    rfl
  skips := by
    rintro source _ ⟨rfl, inside⟩
    cases skipped : skipTrivia source with
    | ok rest => exact .ok ⟨⟨rfl, (skipTrivia_suffix skipped).trans inside⟩, rfl⟩
    | error failure => exact .error ⟨rfl, (skipTrivia_failsInside skipped).trans inside⟩
  keyword := by
    rintro name _ rfl
    rfl
  word := reads_within text word_failsInside fun _ _ _ read => (word_consumes _ _ _ read).1
  identifier :=
    (reads_within text identifier_failsInside fun _ _ _ read => (identifier_consumes _ _ _ read).1).imp
      fun _ _ same => same ▸ ⟨rfl, rfl⟩
  length := reads_within text typeLength_failsInside fun _ _ _ read =>
    (typeLength_eq_ok_iff.mp read).suffix

/-- Readings at ends of one text keep its literals. -/
theorem within_keepsLiterals (text : Text) : (within text).KeepsLiterals where
  toKeepsWords := within_keepsWords text
  same := fun _ _ same => same
  startsLiteral := by
    rintro source _ ⟨rfl, _⟩
    rfl
  startsNumber := by
    rintro source _ ⟨rfl, _⟩
    rfl
  quoted := reads_within text Quoted.literal_failsInside fun _ _ _ read =>
    (Quoted.literal_consumes _ _ _ read).1
  number := reads_within text Number.literal_failsInside fun _ _ _ read =>
    (Number.literal_consumes _ _ _ read).1

/-- A whole source is refused at one of its ends. -/
theorem whole_failsInside {reader : Reader α} (reads : ∀ text, (within text).Reads Eq reader)
    {source : Text} {failure : Failure} (failed : whole reader source = .error failure) :
    failure.rest <:+ source := by
  have both := (reads source).whole (within_keepsWords source) ⟨rfl, List.suffix_rfl⟩
  rw [failed] at both
  cases both with
  | error same => exact same.2

/-- What a type misses, it misses at an end of the source. -/
theorem type_failsWithin {source : Text} {failure : Failure}
    (failed : whole type source = .error failure) : failure.rest <:+ source :=
  whole_failsInside (fun text => (within_keepsLiterals text).type) failed

/-- What an expression misses, it misses at an end of the source. -/
theorem expression_failsWithin {source : Text} {failure : Failure}
    (failed : whole expression source = .error failure) : failure.rest <:+ source :=
  whole_failsInside (fun text => (within_keepsLiterals text).expression) failed

end ParamCodec.Grammar
