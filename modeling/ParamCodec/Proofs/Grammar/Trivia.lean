import ParamCodec.Grammar.Trivia
import ParamCodec.Grammar.Word
import Mathlib.Tactic

namespace ParamCodec.Grammar

/-- A run of blanks and comments in front of the rest of a source. -/
inductive Trivia (rest : Text) : Text → Prop
  | nil : Trivia rest []
  | blank {letter : Char} {text : Text} (blank : Text.isBlank letter = true)
      (tail : Trivia rest text) : Trivia rest (letter :: text)
  | lineComment {mark body text : Text} (opens : mark = ['-', '-'] ∨ mark = ['#'])
      (oneLine : '\n' ∉ body) (ends : ∀ letter ∈ (text ++ rest).head?, letter = '\n')
      (tail : Trivia rest text) : Trivia rest (mark ++ body ++ text)
  | blockComment {body text : Text} (first : ¬ ['*', '/'] <:+: body) (tail : Trivia rest text) :
      Trivia rest (['/', '*'] ++ body ++ ['*', '/'] ++ text)

/-- A blank or the beginning of a comment stands here. -/
def startsTrivia (source : Text) : Bool :=
  source.head?.any Text.isBlank ||
    [['-', '-'], ['#'], ['/', '*']].any fun mark => mark.isPrefixOf source

/-- What each state has still to pass: a run of trivia, after the end of an open comment. -/
def Remaining (rest : Text) : Skipping → Text → Prop
  | .between, text => Trivia rest text
  | .lineComment, text => ∃ body more, text = body ++ more ∧ '\n' ∉ body ∧
      (∀ letter ∈ (more ++ rest).head?, letter = '\n') ∧ Trivia rest more
  | .blockComment _, text => ∃ body more, text = body ++ ['*', '/'] ++ more ∧
      ¬ ['*', '/'] <:+: body ∧ Trivia rest more

/-- Skipping passes over trivia and stops where none starts. -/
theorem skip_sound {state : Skipping} {source rest : Text}
    (skipped : skip state source = .ok rest) :
    startsTrivia rest = false ∧ ∃ text, source = text ++ rest ∧ Remaining rest state text := by
  -- The induction is on the scanner. A step that goes on puts its letters in front of what the other
  -- steps pass.
  fun_induction skip state source with
  | case1 source ih =>
      obtain ⟨stops, _, rfl, body, more, rfl, oneLine, ends, tail⟩ := ih skipped
      refine ⟨stops, ['-', '-'] ++ body ++ more, by simp, ?_⟩
      exact .lineComment (.inl rfl) oneLine ends tail
  | case2 source ih =>
      obtain ⟨stops, _, rfl, body, more, rfl, oneLine, ends, tail⟩ := ih skipped
      refine ⟨stops, ['#'] ++ body ++ more, by simp, ?_⟩
      exact .lineComment (.inr rfl) oneLine ends tail
  | case3 source ih =>
      obtain ⟨stops, _, rfl, body, more, rfl, first, tail⟩ := ih skipped
      refine ⟨stops, ['/', '*'] ++ body ++ ['*', '/'] ++ more, by simp, ?_⟩
      exact .blockComment first tail
  | case4 letter source _ _ _ blank ih =>
      obtain ⟨stops, text, rfl, tail⟩ := ih skipped
      exact ⟨stops, letter :: text, rfl, .blank blank tail⟩
  | case5 letter source noLine noHash noBlock solid =>
      cases skipped
      refine ⟨?_, [], rfl, .nil⟩
      cases source <;> simp_all [startsTrivia, List.isPrefixOf] <;> grind
  | case6 source ih =>
      obtain ⟨stops, text, rfl, tail⟩ := ih skipped
      refine ⟨stops, '\n' :: text, rfl, [], '\n' :: text, rfl, by simp, by simp, ?_⟩
      exact .blank (by decide) tail
  | case7 letter source inside ih =>
      obtain ⟨stops, _, rfl, body, more, rfl, oneLine, ends, tail⟩ := ih skipped
      exact ⟨stops, letter :: (body ++ more), rfl, letter :: body, more, rfl,
        by simp [oneLine, Ne.symm inside], ends, tail⟩
  | case8 opening source ih =>
      obtain ⟨stops, text, rfl, tail⟩ := ih skipped
      exact ⟨stops, '*' :: '/' :: text, rfl, [], text, rfl, by simp, tail⟩
  | case9 opening letter source inside ih =>
      obtain ⟨stops, _, rfl, body, more, rfl, first, tail⟩ := ih skipped
      refine ⟨stops, letter :: (body ++ ['*', '/'] ++ more), rfl, letter :: body, more, rfl, ?_, tail⟩
      intro closed
      -- The comment could only close earlier at the letter that this step passed over.
      rcases List.infix_cons_iff.mp closed with starts | within
      · obtain ⟨same, next⟩ := List.cons_prefix_cons.mp starts
        cases body with
        | nil => simp at next
        | cons second body =>
            obtain ⟨rfl, _⟩ := List.cons_prefix_cons.mp next
            exact inside _ same.symm rfl
      · exact first within
  | case10 => cases skipped
  | case11 =>
      cases skipped
      exact ⟨rfl, [], rfl, .nil⟩
  | case12 =>
      cases skipped
      exact ⟨rfl, [], rfl, [], [], rfl, by simp, by simp, .nil⟩

/-- Nothing is skipped where no trivia starts. -/
theorem skip_of_not_startsTrivia {source : Text} (solid : startsTrivia source = false) :
    skip .between source = .ok source := by
  unfold skip
  split <;> simp_all [startsTrivia, List.isPrefixOf]

/-- Most letters start no trivia, whatever follows them. -/
theorem skipTrivia_solid {letter : Char} (source : Text)
    (solid : (Text.isBlank letter || ['-', '#', '/'].contains letter) = false) :
    skipTrivia (letter :: source) = .ok (letter :: source) := by
  refine skip_of_not_startsTrivia ?_
  simp only [Bool.or_eq_false_iff, List.contains_cons, List.contains_nil, beq_eq_false_iff_ne] at solid
  obtain ⟨noBlank, noLine, noHash, noBlock, _⟩ := solid
  simp [startsTrivia, List.isPrefixOf, noBlank, Ne.symm noLine, Ne.symm noHash, Ne.symm noBlock]

/-- A blank between tokens is passed. -/
theorem skip_blank {letter : Char} (source : Text) (blank : Text.isBlank letter = true) :
    skip .between (letter :: source) = skip .between source := by
  have solid : ¬ (letter = '-' ∨ letter = '#' ∨ letter = '/') := by
    rintro (rfl | rfl | rfl) <;> revert blank <;> decide
  rw [skip]
  · simp [blank]
  all_goals simp_all

/-- A line comment is passed over up to the end of its line. -/
theorem skip_lineComment {body source : Text} (oneLine : '\n' ∉ body)
    (ends : ∀ letter ∈ source.head?, letter = '\n') :
    skip .lineComment (body ++ source) = skip .between source := by
  induction body with
  | nil =>
      cases source with
      | nil => rfl
      | cons letter source =>
          obtain rfl : letter = '\n' := ends letter rfl
          rw [List.nil_append, skip_blank source (by decide)]
          rfl
  | cons letter body ih =>
      rw [List.mem_cons, not_or] at oneLine
      simp only [List.cons_append, skip, if_neg (Ne.symm oneLine.1)]
      exact ih oneLine.2

/-- A block comment is passed over up to its first closing mark. -/
theorem skip_blockComment {opening body source : Text} (first : ¬ ['*', '/'] <:+: body) :
    skip (.blockComment opening) (body ++ '*' :: '/' :: source) = skip .between source := by
  induction body with
  | nil => rfl
  | cons letter body ih =>
      rw [List.infix_cons_iff, not_or] at first
      rw [List.cons_append, skip, ih first.2]
      rintro more rfl next
      cases body with
      | nil => simp at next
      | cons second body =>
          obtain ⟨rfl, _⟩ := List.cons_eq_cons.mp next
          exact first.1 (by simp)

/-- Trivia is passed over whatever follows it. -/
theorem Trivia.skip_append {rest text : Text} (trivia : Trivia rest text) :
    skip .between (text ++ rest) = skip .between rest := by
  induction trivia with
  | nil => rfl
  | blank blank _ ih => rw [List.cons_append, skip_blank _ blank, ih]
  | lineComment opens oneLine ends _ ih =>
      rcases opens with rfl | rfl <;>
        simpa [skip] using (skip_lineComment oneLine ends).trans ih
  | blockComment first _ ih =>
      simpa [skip] using (skip_blockComment first).trans ih

/-- Skipping removes exactly the trivia at the beginning of a source. -/
theorem skipTrivia_eq_ok_iff {source rest : Text} :
    skipTrivia source = .ok rest ↔
      startsTrivia rest = false ∧ ∃ text, source = text ++ rest ∧ Trivia rest text := by
  constructor
  · exact skip_sound
  · rintro ⟨solid, text, rfl, trivia⟩
    exact (Trivia.skip_append trivia).trans (skip_of_not_startsTrivia solid)

/-- What stands behind trivia is an end of the source. -/
theorem skipTrivia_suffix {source rest : Text} (skipped : skipTrivia source = .ok rest) :
    rest <:+ source := by
  obtain ⟨_, text, rfl, _⟩ := skipTrivia_eq_ok_iff.mp skipped
  exact List.suffix_append text rest

/-- The rest is an end of the source and not all of it. -/
def ProperEnd (rest source : Text) : Prop := rest <:+ source ∧ rest.length < source.length

/-- A proper end of an end of the source is a proper end of the source. -/
theorem ProperEnd.trans_suffix {rest next source : Text} (first : ProperEnd rest next)
    (second : next <:+ source) : ProperEnd rest source :=
  ⟨first.1.trans second, lt_of_lt_of_le first.2 second.length_le⟩

/-- A proper end of a proper end is one of the whole. -/
theorem ProperEnd.trans {rest next source : Text} (first : ProperEnd rest next)
    (second : ProperEnd next source) : ProperEnd rest source :=
  first.trans_suffix second.1

/-- An end of a proper end is a proper end of the source. -/
theorem ProperEnd.of_suffix {rest next source : Text} (first : rest <:+ next)
    (second : ProperEnd next source) : ProperEnd rest source :=
  ⟨first.trans second.1, lt_of_le_of_lt first.length_le second.2⟩

/-- A source with a proper end is not empty. -/
theorem ProperEnd.stands {rest source : Text} (proper : ProperEnd rest source) : source ≠ [] := by
  rintro rfl
  exact Nat.not_lt_zero _ proper.2

/-- What stands behind a first letter is a proper end. -/
theorem properEnd_cons (letter : Char) (rest : Text) : ProperEnd rest (letter :: rest) :=
  ⟨List.suffix_cons letter rest, Nat.lt_succ_self _⟩

/-- Behind a letter that follows trivia stands a proper end of the source. -/
theorem skipTrivia_properEnd {source rest : Text} {letter : Char}
    (skipped : skipTrivia source = .ok (letter :: rest)) : ProperEnd rest source :=
  (properEnd_cons letter rest).trans_suffix (skipTrivia_suffix skipped)

/-- Behind trivia there are no more trivia. -/
theorem skipTrivia_idem {source rest : Text} (skipped : skipTrivia source = .ok rest) :
    skipTrivia rest = .ok rest :=
  skip_of_not_startsTrivia (skipTrivia_eq_ok_iff.mp skipped).1

/-- Trivia stays trivia when what follows it keeps its first letter or starts a line. -/
theorem Trivia.change {rest other text : Text} (trivia : Trivia rest text)
    (same : ∀ letter ∈ other.head?, letter = '\n' ∨ letter ∈ rest.head?) : Trivia other text := by
  induction trivia with
  | nil => exact .nil
  | blank blank _ ih => exact .blank blank ih
  | blockComment first _ ih => exact .blockComment first ih
  | @lineComment mark body text opens oneLine ends _ ih =>
      refine .lineComment opens oneLine ?_ ih
      cases text with
      | cons letter text => exact ends
      | nil =>
          intro letter found
          rcases same letter found with newline | kept
          · exact newline
          · exact ends letter kept

section Letters

variable {letters others : List Char} {letter : Char} (member : letter ∈ letters)

include member

/-- One of some letters is of the kind that all of them are. -/
theorem all_of_mem {kind : Char → Bool} (all : letters.all kind = true) : kind letter = true :=
  List.all_eq_true.mp all letter member

/-- No letter of a list is of the kind when the list has none of that kind. -/
theorem none_of_mem {kind : Char → Bool} (none : letters.any kind = false) : kind letter = false :=
  Bool.eq_false_iff.mpr (List.any_eq_false.mp none letter member)

/-- Lists that share no letter stay apart at each letter. -/
theorem not_mem_of_mem (apart : letters.any others.contains = false) : letter ∉ others := by
  intro inside
  have outside : others.contains letter = false := none_of_mem member apart
  rw [List.contains_iff_mem.mpr inside] at outside
  cases outside

/-- None of these letters starts trivia. -/
theorem skipTrivia_of_mem (source : Text)
    (solid : letters.any (fun letter => Text.isBlank letter || ['-', '#', '/'].contains letter) = false) :
    skipTrivia (letter :: source) = .ok (letter :: source) :=
  skipTrivia_solid source (none_of_mem member solid)

end Letters

/-- A letter that ends the words, numbers and strings before it and continues no comment mark. -/
def isBreak (letter : Char) : Bool :=
  !(Identifier.isWordPart letter || ['.', '-', '*', '\x27', '\x22'].contains letter)

/-- The text is empty or starts with a break. -/
def Breaks (text : Text) : Prop := ∀ letter ∈ text.head?, isBreak letter = true

/-- Text in front of a break starts trivia only when it does so alone. -/
theorem startsTrivia_append {text more : Text} (solid : startsTrivia text = false)
    (stands : text ≠ []) (breaks : Breaks more) : startsTrivia (text ++ more) = false := by
  obtain ⟨letter, text, rfl⟩ := List.exists_cons_of_ne_nil stands
  have noMark : ∀ mark ∈ more.head?, mark ≠ '-' ∧ mark ≠ '*' := by
    intro mark found
    have ends := breaks mark found
    constructor <;> rintro rfl <;> revert ends <;> decide
  cases text with
  | cons second text => simpa [startsTrivia, List.isPrefixOf] using solid
  | nil =>
      cases more with
      | nil => exact solid
      | cons second more =>
          have noMark := noMark second rfl
          simp_all [startsTrivia, List.isPrefixOf, Ne.symm noMark.1, Ne.symm noMark.2]

/-- Text behind a rest that skipping stops at does not change where it stops. -/
theorem skipTrivia_append {source rest more : Text} (skipped : skipTrivia source = .ok rest)
    (stands : rest ≠ []) (breaks : Breaks more) :
    skipTrivia (source ++ more) = .ok (rest ++ more) := by
  obtain ⟨solid, text, rfl, trivia⟩ := skipTrivia_eq_ok_iff.mp skipped
  obtain ⟨letter, rest, rfl⟩ := List.exists_cons_of_ne_nil stands
  exact skipTrivia_eq_ok_iff.mpr
    ⟨startsTrivia_append solid stands breaks, text, by simp, trivia.change (by simp)⟩

/-- A line break closes the trivia at the end of a source. -/
theorem skipTrivia_append_newline {source : Text} (more : Text) (skipped : skipTrivia source = .ok []) :
    skipTrivia (source ++ '\n' :: more) = skipTrivia more := by
  obtain ⟨_, text, rfl, trivia⟩ := skipTrivia_eq_ok_iff.mp skipped
  have line : Trivia ('\n' :: more) text := trivia.change (by simp)
  rw [List.append_nil]
  exact line.skip_append.trans (skip_blank more (by decide))

end ParamCodec.Grammar
