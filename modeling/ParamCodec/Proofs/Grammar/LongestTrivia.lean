import ParamCodec.Proofs.Grammar.Word

namespace ParamCodec.Grammar

/-- What stands behind the first mark that closes a block comment. -/
def afterClosing? : Text → Option Text
  | '*' :: '/' :: rest => some rest
  | _ :: rest => afterClosing? rest
  | [] => none

/-- A comment ends behind a letter in two ways: the letter is the star of its end, or the end stands
in what follows. -/
theorem closing_cons_iff {letter : Char} {text : Text} :
    ['*', '/'] <:+: letter :: text ↔
      (letter = '*' ∧ ∃ rest, text = '/' :: rest) ∨ ['*', '/'] <:+: text := by
  rw [List.infix_cons_iff]
  refine or_congr_left ⟨?_, ?_⟩
  · rintro ⟨rest, same⟩
    obtain ⟨rfl, rfl⟩ := List.cons_eq_cons.mp same
    exact ⟨rfl, rest, rfl⟩
  · rintro ⟨rfl, rest, rfl⟩
    exact ⟨rest, rfl⟩

/-- A comment without an end has no text behind it. -/
theorem afterClosing?_eq_none_iff {text : Text} :
    afterClosing? text = none ↔ ¬ ['*', '/'] <:+: text := by
  fun_induction afterClosing? text with
  | case1 rest => simp [closing_cons_iff]
  | case2 letter rest other ih =>
      rw [ih, closing_cons_iff, not_or]
      refine ⟨fun none => ⟨?_, none⟩, And.right⟩
      rintro ⟨rfl, more, rfl⟩
      exact other more rfl rfl
  | case3 => simp

/-- Behind a comment stands what follows its first end. -/
theorem afterClosing?_eq_some {text rest : Text} (found : afterClosing? text = some rest) :
    ∃ body, text = body ++ ['*', '/'] ++ rest ∧ ¬ ['*', '/'] <:+: body := by
  fun_induction afterClosing? text with
  | case1 more =>
      cases found
      exact ⟨[], rfl, by simp⟩
  | case2 letter more other ih =>
      obtain ⟨body, rfl, first⟩ := ih found
      refine ⟨letter :: body, rfl, ?_⟩
      rw [closing_cons_iff, not_or]
      refine ⟨?_, first⟩
      rintro ⟨rfl, behind, rfl⟩
      exact other _ rfl rfl
  | case3 => cases found

/-- A line ends at its line break or at the end of the source. -/
theorem exists_line (source : Text) : ∃ body more, source = body ++ more ∧ '\n' ∉ body ∧
    ∀ letter ∈ more.head?, letter = '\n' := by
  obtain ⟨whole, all, ends⟩ := run_eq_iff.mp
    ⟨(rfl : source.takeWhile (· ≠ '\n') = _), (rfl : source.dropWhile (· ≠ '\n') = _)⟩
  refine ⟨_, _, whole, ?_, ?_⟩
  · intro inside
    simpa using List.all_eq_true.mp all '\n' inside
  · intro letter found
    simpa using ends letter found

/-- Trivia start with a blank, with the mark of a line comment or with the opening of a block comment.
-/
theorem startsTrivia_cases {source : Text} (starts : startsTrivia source = true) :
    (∃ letter rest, source = letter :: rest ∧ Text.isBlank letter = true) ∨
    (∃ mark rest, source = mark ++ rest ∧ (mark = ['-', '-'] ∨ mark = ['#'])) ∨
    ∃ rest, source = '/' :: '*' :: rest := by
  simp only [startsTrivia, Bool.or_eq_true, List.any_eq_true, List.isPrefixOf_iff_prefix,
    Option.any_eq_true] at starts
  rcases starts with ⟨letter, found, blank⟩ | ⟨mark, listed, rest, rfl⟩
  · obtain ⟨rest, rfl⟩ := List.head?_eq_some_iff.mp found
    exact .inl ⟨letter, rest, rfl, blank⟩
  · simp only [List.mem_cons, List.not_mem_nil, or_false] at listed
    rcases listed with line | hash | rfl
    · exact .inr (.inl ⟨mark, rest, rfl, .inl line⟩)
    · exact .inr (.inl ⟨mark, rest, rfl, .inr hash⟩)
    · exact .inr (.inr ⟨rest, rfl⟩)

/-- A block comment opens here and is closed nowhere. -/
def Unclosed (source : Text) : Prop :=
  ∃ inside, source = '/' :: '*' :: inside ∧ ¬ ['*', '/'] <:+: inside

/-- The source is a run of trivia with the rest behind it. -/
structure Passes (source text rest : Text) : Prop where
  whole : source = text ++ rest
  trivia : Trivia rest text

/-- Every source can be passed up to a place where no trivia starts or a comment has no end. -/
theorem exists_passes (source : Text) :
    ∃ text rest, Passes source text rest ∧ (startsTrivia rest = false ∨ Unclosed rest) := by
  induction length : source.length using Nat.strong_induction_on generalizing source with
  | _ length ih =>
      subst length
      cases starts : startsTrivia source with
      | false => exact ⟨[], source, ⟨rfl, .nil⟩, .inl starts⟩
      | true =>
          rcases startsTrivia_cases starts with
            ⟨letter, more, rfl, blank⟩ | ⟨mark, more, rfl, opens⟩ | ⟨inside, rfl⟩
          · obtain ⟨text, rest, ⟨rfl, trivia⟩, stops⟩ := ih _ (Nat.lt_succ_self _) more rfl
            exact ⟨letter :: text, rest, ⟨rfl, .blank blank trivia⟩, stops⟩
          · obtain ⟨body, behind, rfl, oneLine, ends⟩ := exists_line more
            have stands : 0 < mark.length := by rcases opens with rfl | rfl <;> decide
            obtain ⟨text, rest, ⟨rfl, trivia⟩, stops⟩ :=
              ih _ (by simp only [List.length_append]; omega) behind rfl
            exact ⟨mark ++ body ++ text, rest, ⟨by simp, .lineComment opens oneLine ends trivia⟩, stops⟩
          · cases closed : afterClosing? inside with
            | none =>
                exact ⟨[], _, ⟨rfl, .nil⟩, .inr ⟨inside, rfl, afterClosing?_eq_none_iff.mp closed⟩⟩
            | some behind =>
                obtain ⟨body, rfl, first⟩ := afterClosing?_eq_some closed
                obtain ⟨text, rest, ⟨rfl, trivia⟩, stops⟩ :=
                  ih _ (by simp only [List.length_append, List.length_cons]; omega) behind rfl
                exact ⟨['/', '*'] ++ body ++ ['*', '/'] ++ text, rest,
                  ⟨by simp, .blockComment first trivia⟩, stops⟩

/-- A run of trivia in front of a source is skipped. -/
theorem Passes.skip_eq {source text rest : Text} (passes : Passes source text rest) :
    skipTrivia source = skipTrivia rest := by
  rw [passes.whole]
  exact passes.trivia.skip_append

/-- In a block comment skipping goes on behind its first end, and fails at its opening without one. -/
theorem skip_afterClosing (opening inside : Text) : skip (.blockComment opening) inside =
    match afterClosing? inside with
    | some rest => skip .between rest
    | none => .error ⟨.endOfComment, opening⟩ := by
  fun_induction afterClosing? inside with
  | case1 rest => rfl
  | case2 letter rest other ih =>
      rw [← ih, skip]
      exact other
  | case3 => rfl

/-- A block comment without an end is missed at its opening. -/
theorem Unclosed.skip_eq {source : Text} (unclosed : Unclosed source) :
    skipTrivia source = .error ⟨.endOfComment, source⟩ := by
  obtain ⟨inside, rfl, never⟩ := unclosed
  rw [skipTrivia, skip, skip_afterClosing, afterClosing?_eq_none_iff.mpr never]

section Runs

variable {source text other rest left : Text}

/-- Trivia are skipped up to a rest that starts none. -/
theorem Passes.skip_solid (passes : Passes source text rest) (solid : startsTrivia rest = false) :
    skipTrivia source = .ok rest :=
  passes.skip_eq.trans (skip_of_not_startsTrivia solid)

/-- Trivia are skipped up to a comment that has no end, and skipping fails there. -/
theorem Passes.skip_unclosed (passes : Passes source text rest) (unclosed : Unclosed rest) :
    skipTrivia source = .error ⟨.endOfComment, rest⟩ :=
  passes.skip_eq.trans unclosed.skip_eq

/-- No run of trivia goes further than the one behind which no trivia begins. -/
theorem Passes.longest (passes : Passes source text rest) (solid : startsTrivia rest = false)
    (passes' : Passes source other left) : other <+: text := by
  have further : rest <:+ left :=
    skipTrivia_suffix (passes'.skip_eq.symm.trans (passes.skip_solid solid))
  obtain ⟨between, rfl⟩ := further
  have same : text ++ rest = other ++ (between ++ rest) := passes.whole.symm.trans passes'.whole
  rw [← List.append_assoc] at same
  exact ⟨between, (List.append_cancel_right same).symm⟩

/-- A source has one run of trivia only that ends in front of no further ones. -/
theorem Passes.unique (passes : Passes source text rest) (solid : startsTrivia rest = false)
    (passes' : Passes source other left) (solid' : startsTrivia left = false) :
    text = other ∧ rest = left := by
  obtain rfl : rest = left :=
    Except.ok.inj ((passes.skip_solid solid).symm.trans (passes'.skip_solid solid'))
  exact ⟨List.append_cancel_right (passes.whole.symm.trans passes'.whole), rfl⟩

end Runs

/-- Skipping removes the longest run of trivia at the beginning of a source, in the only way in which
it can be removed. It fails exactly where it comes to a comment without an end, and there. -/
theorem skipTrivia_longest (source : Text) :
    (∀ rest, skipTrivia source = .ok rest ↔
      ∃ text, Passes source text rest ∧ startsTrivia rest = false) ∧
    (∀ text rest other left, Passes source text rest → startsTrivia rest = false →
      Passes source other left →
        other <+: text ∧ (startsTrivia left = false → text = other ∧ rest = left)) ∧
    (∀ rest, skipTrivia source = .ok rest → skipTrivia rest = .ok rest) ∧
    (∀ failure, skipTrivia source = .error failure ↔
      ∃ text rest, Passes source text rest ∧ Unclosed rest ∧ failure = ⟨.endOfComment, rest⟩) := by
  refine ⟨fun rest => ⟨?_, ?_⟩, ?_, fun _ => skipTrivia_idem, fun failure => ⟨?_, ?_⟩⟩
  · intro skipped
    obtain ⟨solid, text, whole, trivia⟩ := skipTrivia_eq_ok_iff.mp skipped
    exact ⟨text, ⟨whole, trivia⟩, solid⟩
  · rintro ⟨text, passes, solid⟩
    exact passes.skip_solid solid
  · intro text rest other left passes solid passes'
    exact ⟨passes.longest solid passes', passes.unique solid passes'⟩
  · intro failed
    obtain ⟨text, rest, passes, solid | unclosed⟩ := exists_passes source
    · cases failed.symm.trans (passes.skip_solid solid)
    · have stuck := passes.skip_unclosed unclosed
      exact ⟨text, rest, passes, unclosed, Except.error.inj (failed.symm.trans stuck)⟩
  · rintro ⟨text, rest, passes, unclosed, rfl⟩
    exact passes.skip_unclosed unclosed

/-- Marks inside comments of the other kinds, and an opening mark that does not close itself. -/
theorem skipTrivia_longest_overlaps :
    skipTrivia "/*/*/--*/\nx".toList = .ok ['x'] ∧
      skipTrivia "#*/\n/*/".toList = .error ⟨.endOfComment, "/*/".toList⟩ := by
  have ends : ∀ letter ∈ some '\n', letter = '\n' := by simp
  have line : Trivia ['x'] "\n".toList := .blank (by decide) .nil
  have comment : Trivia ['x'] "--*/\n".toList :=
    .lineComment (.inl rfl) (by decide : '\n' ∉ ['*', '/']) ends line
  have block : Trivia ['x'] "/*/*/--*/\n".toList :=
    .blockComment (by decide : ¬ ['*', '/'] <:+: ['/']) comment
  have hash : Trivia "/*/".toList "#*/\n".toList :=
    .lineComment (.inr rfl) (by decide : '\n' ∉ ['*', '/']) ends (.blank (by decide) .nil)
  exact ⟨((skipTrivia_longest _).1 _).mpr ⟨_, ⟨rfl, block⟩, by decide⟩,
    ((skipTrivia_longest _).2.2.2 _).mpr ⟨_, _, ⟨rfl, hash⟩, ⟨['/'], rfl, by decide⟩, rfl⟩⟩

end ParamCodec.Grammar
