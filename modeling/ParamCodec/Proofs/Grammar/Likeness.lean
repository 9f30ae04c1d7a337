import Mathlib.Data.List.Forall2
import ParamCodec.Proofs.Grammar.TypeForms
import ParamCodec.Proofs.Grammar.Whole

namespace ParamCodec.Grammar

variable {α β : Type}

section Alike

variable {ε δ : Type} {failures : ε → ε → Prop} {values : α → β → Prop}

/-- Both results are failures that are alike, or values that are alike. -/
inductive Alike (failures : ε → ε → Prop) (values : α → β → Prop) : Except ε α → Except ε β → Prop
  | ok {value : α} {other : β} (same : values value other) :
      Alike failures values (.ok value) (.ok other)
  | error {failure other : ε} (same : failures failure other) :
      Alike failures values (.error failure) (.error other)

/-- Alike steps that are followed by alike steps are alike. -/
theorem Alike.bind {γ η : Type} {results : γ → η → Prop} {first : Except ε α} {other : Except ε β}
    {next : α → Except ε γ} {further : β → Except ε η} (firsts : Alike failures values first other)
    (nexts : ∀ value found, values value found →
      Alike failures results (next value) (further found)) :
    Alike failures results (first >>= next) (other >>= further) := by
  cases firsts with
  | ok same => exact nexts _ _ same
  | error same => exact .error same

/-- Values that are alike in one sense are alike in every wider one. -/
theorem Alike.imp {others : α → β → Prop} {first : Except ε α} {other : Except ε β}
    (alike : Alike failures values first other)
    (imp : ∀ value found, values value found → others value found) :
    Alike failures others first other := by
  cases alike with
  | ok same => exact .ok (imp _ _ same)
  | error same => exact .error same

/-- Alike results stay alike when their errors are changed alike. -/
theorem Alike.mapError {errors : δ → δ → Prop} {first : Except ε α} {other : Except ε β}
    {change further : ε → δ} (alike : Alike failures values first other)
    (imp : ∀ failure found, failures failure found → errors (change failure) (further found)) :
    Alike errors values (first.mapError change) (other.mapError further) := by
  cases alike with
  | ok same => exact .ok same
  | error same => exact .error (imp _ _ same)

/-- A choice that falls alike on both sides. -/
theorem Alike.choose {test other : Bool} {first second : Except ε α} {third fourth : Except ε β}
    (same : test = other) (yes : test = true → Alike failures values first third)
    (no : test = false → Alike failures values second fourth) :
    Alike failures values (if test then first else second) (if other then third else fourth) := by
  subst same
  cases test with
  | true => exact yes rfl
  | false => exact no rfl

end Alike

/-- What two readings may differ in: their sources, the words in them and their failures. -/
structure Likeness where
  texts : Text → Text → Prop
  words : Text → Text → Prop
  failures : Failure → Failure → Prop

namespace Likeness

variable (like : Likeness)

/-- Alike values in front of alike rests. -/
inductive Results (values : α → β → Prop) : α × Text → β × Text → Prop
  | intro {value : α} {other : β} {rest left : Text} (alike : values value other)
      (same : like.texts rest left) : Results values (value, rest) (other, left)

/-- The reader reads alike sources alike. -/
def Reads (values : α → α → Prop) (reader : Reader α) : Prop :=
  ∀ source other, like.texts source other →
    Alike like.failures (like.Results values) (reader source) (reader other)

def Names (name other : Identifier) : Prop :=
  name.quoted = other.quoted ∧ like.words name.name other.name

/-- The marks that stand between the words of a fragment. -/
def marks : List Char := ['(', ')', '[', ']', '<', '>', ',', '.', '@', '\x60']

/-- Alike sources show the same marks and keywords, and alike words behind their trivia. -/
structure KeepsWords : Prop where
  fails : ∀ source other expected, like.texts source other →
    like.failures ⟨expected, source⟩ ⟨expected, other⟩
  startsWith : ∀ source other, like.texts source other →
    ∀ mark ∈ marks, startsWith mark source = startsWith mark other
  tail : ∀ source other, like.texts source other →
    ∀ mark ∈ marks, Grammar.startsWith mark source = true → like.texts source.tail other.tail
  startsWord : ∀ source other, like.texts source other → startsWord source = startsWord other
  skips : ∀ source other, like.texts source other →
    Alike like.failures (fun rest left => like.texts rest left ∧ rest.isEmpty = left.isEmpty)
      (skipTrivia source) (skipTrivia other)
  keyword : ∀ name other, like.words name other → Text.sameWord name = Text.sameWord other
  word : like.Reads like.words word
  identifier : like.Reads like.Names identifier
  length : like.Reads Eq typeLength

end Likeness

/-- A token is the first letter of the source, or missed there. -/
theorem token_eq (mark : Char) (source : Text) : token mark source =
    if startsWith mark source then .ok source.tail else .error ⟨.token mark, source⟩ := by
  cases source with
  | nil => rfl
  | cons letter source => by_cases same : letter = mark <;> simp [token, startsWith, same]

/-- One round of a list: an item, and behind a comma what the rounds after it read. -/
def commaRound (item : Reader α) (close : Char) (again : Reader (List α)) : Reader (List α) :=
  fun source => do
    let (first, rest) ← item source
    let rest ← skipTrivia rest
    if startsWith ',' rest then
      let (more, rest) ← again rest.tail
      return (first :: more, rest)
    else
      let rest ← token close rest
      return ([first], rest)

/-- A list between commas is one round around the rest of the list. -/
theorem commaList_succ (item : Reader α) (close : Char) (steps : Nat) (source : Text) :
    commaList item close (steps + 1) source =
      commaRound item close (commaList item close steps) source := by
  rw [commaList]
  refine bind_congr_ok ?_
  rintro ⟨first, after⟩ _
  refine bind_congr_ok fun rest _ => ?_
  split
  · rfl
  · next noComma =>
    rw [if_neg]
    intro comma
    obtain ⟨more, rfl⟩ := startsWith_iff.mp comma
    exact noComma more rfl

/-- The rounds after the first one read a shorter source. -/
theorem commaRound_congr {item : Reader α} {close : Char} (consumes : Consumes item)
    {again other : Reader (List α)} {source : Text}
    (same : ∀ start : Text, start.length < source.length → other start = again start) :
    commaRound item close other source = commaRound item close again source := by
  refine bind_congr_ok ?_
  rintro ⟨first, after⟩ read
  refine bind_congr_ok fun rest skipped => ?_
  split
  · next comma =>
    obtain ⟨more, rfl⟩ := startsWith_iff.mp comma
    have shorter := (skipTrivia_properEnd skipped).trans (consumes _ _ _ read)
    rw [List.tail_cons, same more shorter.2]
  · rfl

/-- More steps than the source has letters do not matter, whether the list is read or not. -/
theorem commaList_steps {item : Reader α} {close : Char} (consumes : Consumes item) {steps : Nat}
    {source : Text} (enough : source.length < steps) :
    commaList item close steps source = commaList item close (source.length + 1) source :=
  levels_eq_of_congr (commaList_succ item close) (fun _ _ _ same => commaRound_congr consumes same) enough

namespace Likeness

variable {like : Likeness} {values : α → α → Prop}

/-- What is read alike in one sense is read alike in every wider one. -/
theorem Reads.imp {others : α → α → Prop} {reader : Reader α} (reads : like.Reads values reader)
    (imp : ∀ value other, values value other → others value other) : like.Reads others reader :=
  fun source other same => (reads source other same).imp
    fun _ _ ⟨alike, sameRest⟩ => ⟨imp _ _ alike, sameRest⟩

/-- Nested readers read alike when each level does whose inner level does. -/
theorem Reads.nested {outer : Reader α → Reader α} {levels : Nat → Reader α}
    (nests : Nests outer levels) (bottom : like.Reads values (levels 0))
    (step : ∀ inner, Consumes inner → like.Reads values inner → like.Reads values (outer inner)) :
    like.Reads values fun source => levels (source.length + 1) source := by
  have each (depth : Nat) : like.Reads values (levels depth) := by
    induction depth with
    | zero => exact bottom
    | succ depth ih =>
        rw [nests.step]
        exact step _ (nests.levels_consume depth) ih
  intro source other same
  have both := each (max source.length other.length + 1) _ _ same
  rw [nests.levels_eq (show source.length < _ by omega),
    nests.levels_eq (show other.length < _ by omega)] at both
  exact both

/-- Readers that are followed by alike steps read alike. -/
theorem Reads.bind {γ δ : Type} {results : γ → δ → Prop} {reader : Reader α} {source other : Text}
    {next : α × Text → Except Failure γ} {further : α × Text → Except Failure δ}
    (reads : like.Reads values reader) (same : like.texts source other)
    (nexts : ∀ value found rest left, values value found → like.texts rest left →
      Alike like.failures results (next (value, rest)) (further (found, left))) :
    Alike like.failures results (reader source >>= next) (reader other >>= further) := by
  refine (reads _ _ same).bind ?_
  rintro _ _ ⟨alike, sameRest⟩
  exact nexts _ _ _ _ alike sameRest

section Keeping

variable (keeps : like.KeepsWords)

include keeps

/-- The marks are read alike from alike sources. -/
theorem KeepsWords.token {mark : Char} (isMark : mark ∈ marks) {source other : Text}
    (same : like.texts source other) :
    Alike like.failures like.texts (token mark source) (token mark other) := by
  rw [token_eq, token_eq]
  exact .choose (keeps.startsWith _ _ same mark isMark)
    (fun starts => .ok (keeps.tail _ _ same mark isMark starts))
    (fun _ => .error (keeps.fails _ _ _ same))

/-- The rests behind trivia are alike. -/
theorem KeepsWords.behindTrivia {γ : Type} {results : γ → γ → Prop} {source other : Text}
    {next further : Text → Except Failure γ} (same : like.texts source other)
    (nexts : ∀ rest left, like.texts rest left → Alike like.failures results (next rest) (further left)) :
    Alike like.failures results (skipTrivia source >>= next) (skipTrivia other >>= further) :=
  (keeps.skips _ _ same).bind fun rest left alike => nexts rest left alike.1

/-- Lists between commas are read alike when their items are. -/
theorem Reads.commaList {item : Reader α} {close : Char} (isMark : close ∈ marks)
    (reads : like.Reads values item) (steps : Nat) :
    like.Reads (List.Forall₂ values) (commaList item close steps) := by
  induction steps with
  | zero => exact fun source other same => .error (keeps.fails _ _ _ same)
  | succ steps ih =>
      intro source other same
      rw [commaList_succ, commaList_succ]
      refine reads.bind same fun first found after behind alike same => ?_
      refine keeps.behindTrivia same fun rest left same => ?_
      refine .choose (keeps.startsWith _ _ same ',' (by decide)) (fun comma => ?_) (fun _ => ?_)
      · refine ih.bind (keeps.tail _ _ same ',' (by decide) comma) ?_
        exact fun more others rest left alikes same => .ok ⟨.cons alike alikes, same⟩
      · refine (keeps.token isMark same).bind fun rest left same => ?_
        exact .ok ⟨.cons alike .nil, same⟩

/-- A list whose steps come from its source is read alike from sources of different lengths. -/
theorem Reads.wholeList {item : Reader α} {close : Char} (isMark : close ∈ marks)
    (consumes : Consumes item) (reads : like.Reads values item) :
    like.Reads (List.Forall₂ values) fun source =>
      Grammar.commaList item close (source.length + 1) source := by
  intro source other same
  have both := reads.commaList keeps isMark (max source.length other.length + 1) _ _ same
  rw [commaList_steps consumes (show source.length < _ by omega),
    commaList_steps consumes (show other.length < _ by omega)] at both
  exact both

/-- Lists up to a closing mark are read alike when their items are. -/
theorem Reads.listUntil {item : Reader α} {close : Char} (isMark : close ∈ marks)
    (consumes : Consumes item) (reads : like.Reads values item) :
    like.Reads (List.Forall₂ values) (listUntil item close) := by
  intro source other same
  refine keeps.behindTrivia same fun rest left same => ?_
  exact .choose (keeps.startsWith _ _ same close isMark)
    (fun closes => .ok ⟨.nil, keeps.tail _ _ same close isMark closes⟩)
    (fun _ => reads.wholeList keeps isMark consumes _ _ same)

/-- Whole sources that are alike are read alike. -/
theorem Reads.whole {reader : Reader α} (reads : like.Reads values reader) {source other : Text}
    (same : like.texts source other) :
    Alike like.failures values (whole reader source) (whole reader other) := by
  refine reads.bind same fun value found rest left alike same => ?_
  refine (keeps.skips _ _ same).bind fun rest left ⟨same, empty⟩ => ?_
  exact .choose empty (fun _ => .ok alike) (fun _ => .error (keeps.fails _ _ _ same))

end Keeping

end Likeness

end ParamCodec.Grammar
