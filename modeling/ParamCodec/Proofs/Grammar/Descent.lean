import ParamCodec.Proofs.Grammar.LikeExpressions
import ParamCodec.Proofs.Grammar.LongestTrivia

namespace ParamCodec.Grammar

section Recursion

variable {ρ σ : Type}

/-- The answer for a source asks an inner function at a text: it becomes another answer when the inner
one answers differently there and nowhere else. Readers ask wherever they call, since they fail with
what they call. -/
def Asks (outer : (Text → ρ) → Text → σ) (inner : Text → ρ) (source text : Text) : Prop :=
  ∃ other : Text → ρ, (∀ start, start ≠ text → other start = inner start) ∧
    outer other source ≠ outer inner source

/-- What an answer depends on among some texts only, it asks among them. -/
theorem Asks.among {outer : (Text → ρ) → Text → σ} {inner : Text → ρ} {source text : Text}
    (asks : Asks outer inner source text) {among : Text → Prop}
    (congr : ∀ other : Text → ρ, (∀ start, among start → other start = inner start) →
      outer other source = outer inner source) : among text := by
  obtain ⟨other, same, differs⟩ := asks
  by_contra outside
  exact differs (congr other fun start inside => same start fun equal => outside (equal ▸ inside))

/-- A failure in place of an inner answer that is asked for changes the answer. -/
theorem asks_of_failure {α β : Type} {outer : Reader α → Reader β} {inner : Reader α}
    {source text : Text}
    (differs : (outer (fun start => if start = text then .error ⟨.identifier, start⟩ else inner start)
      source).toOption ≠ (outer inner source).toOption) : Asks outer inner source text :=
  ⟨_, fun _ other => if_neg other, fun same => differs (congrArg Except.toOption same)⟩

/-- A recursion goes down when it asks itself in shorter sources only. Then one function and no other
answers as the recursion says. -/
structure GoesDown (round : (Text → ρ) → Text → ρ) (loop : Text → ρ) : Prop where
  shorter : ∀ source text, Asks round loop source text → text.length < source.length
  only : ∀ other, (∀ source, other source = round other source) ↔ other = loop

/-- A recursion that depends only on the answers for shorter sources goes down. -/
theorem goesDown_of_congr {round : (Text → ρ) → Text → ρ} {loop : Text → ρ}
    (fixed : ∀ source, loop source = round loop source)
    (congr : ∀ (other : Text → ρ) (source : Text),
      (∀ start : Text, start.length < source.length → other start = loop start) →
        round other source = round loop source) : GoesDown round loop where
  shorter source _ asks := asks.among fun other => congr other source
  only other := by
    constructor
    · intro solves
      funext source
      -- Another solution gives what the loop gives on shorter sources, and a round sees no others.
      induction length : source.length using Nat.strong_induction_on generalizing source with
      | _ length ih =>
          subst length
          rw [solves, fixed]
          exact congr other source fun start shorter => ih _ shorter start rfl
    · rintro rfl
      exact fixed

/-- A loop whose steps come from its source goes down when each round goes on in a shorter source. -/
theorem goesDown_of_steps {round : (Text → ρ) → Text → ρ} {levels : Nat → Text → ρ}
    (step : ∀ steps source, levels (steps + 1) source = round (levels steps) source)
    (congr : ∀ (again other : Text → ρ) (source : Text),
      (∀ start : Text, start.length < source.length → other start = again start) →
        round other source = round again source) :
    GoesDown round fun source => levels (source.length + 1) source := by
  refine goesDown_of_congr (fun source => ?_) fun other => congr _ other
  rw [step]
  exact congr _ _ _ fun start shorter =>
    levels_eq_of_congr step (fun steps other => congr (levels steps) other) shorter

end Recursion

section Rounds

variable {α : Type}

/-- The rounds of a list, as many as there may be. -/
def commaItems (item : Reader α) (close : Char) : Reader (List α) :=
  fun source => commaList item close (source.length + 1) source

/-- The rounds of a list between commas go down when each item takes something. -/
theorem commaItems_goesDown {item : Reader α} (consumes : Consumes item) (close : Char) :
    GoesDown (commaRound item close) (commaItems item close) :=
  goesDown_of_steps (commaList_succ item close) fun _ _ _ same => commaRound_congr consumes same

/-- A list between commas takes at least one letter when each item does. -/
theorem commaItems_consumes {item : Reader α} (consumes : Consumes item) (close : Char) :
    Consumes (commaItems item close) :=
  fun _ _ _ read => (commaList_sound read).properEnd consumes

/-- The points and identifiers of a path, in as many rounds as there may be. -/
def segments : Reader (List Identifier) := fun source => pathSegments source.length source

/-- The segments of a path go down from point to point. -/
theorem segments_goesDown : GoesDown segmentsRound segments := by
  refine goesDown_of_congr (fun source => ?_) fun _ _ same => segmentsRound_congr same
  -- The loop has one step less than the rounds may take, since the last one reads no identifier.
  have step : segments source = segmentsRound (pathSegments source.length) source :=
    (pathSegments_succ le_rfl).symm
  rw [step]
  exact segmentsRound_congr fun start shorter => pathSegments_steps shorter.le

/-- One round of trivia: blanks and a comment, and what the rounds after it leave. -/
def triviaRound (again : Text → Except Failure Text) (source : Text) : Except Failure Text :=
  match Text.trimLeft source with
  | '-' :: '-' :: rest => again (rest.dropWhile (· ≠ '\n'))
  | '#' :: rest => again (rest.dropWhile (· ≠ '\n'))
  | '/' :: '*' :: inside =>
    match afterClosing? inside with
    | some rest => again rest
    | none => .error ⟨.endOfComment, '/' :: '*' :: inside⟩
  | rest => .ok rest

/-- Blanks in front of a source may be left out before the trivia are skipped. -/
theorem skipTrivia_trimLeft (source : Text) : skipTrivia (Text.trimLeft source) = skipTrivia source := by
  induction source with
  | nil => rfl
  | cons letter source ih =>
      rw [Text.trimLeft, List.dropWhile_cons]
      split
      · next blank => exact ih.trans (skip_blank source blank).symm
      · rfl

/-- A line comment is skipped by going on at the end of its line. -/
theorem skip_lineComment_eq (source : Text) :
    skip .lineComment source = skipTrivia (source.dropWhile (· ≠ '\n')) := by
  induction source with
  | nil => rfl
  | cons letter source ih =>
      rw [skip, List.dropWhile_cons]
      by_cases newline : letter = '\n'
      · subst newline
        exact (skip_blank source (by decide)).symm
      · rw [if_neg newline, if_pos (by simpa using newline), ih]

/-- Behind the blanks either a comment begins or what is left. -/
theorem skipTrivia_eq_triviaRound (source : Text) :
    skipTrivia source = triviaRound skipTrivia source := by
  have solid : ∀ letter ∈ (Text.trimLeft source).head?, Text.isBlank letter = false := by
    intro letter found
    have stops := List.head?_dropWhile_not Text.isBlank source
    rw [Text.trimLeft] at found
    rw [found] at stops
    simpa using stops
  rw [← skipTrivia_trimLeft, triviaRound]
  generalize Text.trimLeft source = start at solid
  split
  · exact skip_lineComment_eq _
  · exact skip_lineComment_eq _
  · next inside => exact skip_afterClosing _ inside
  · next noLine noHash noBlock =>
    refine skip_of_not_startsTrivia ?_
    by_contra starts
    rcases startsTrivia_cases (Bool.eq_true_of_not_eq_false starts) with
      ⟨letter, more, rfl, blank⟩ | ⟨mark, more, rfl, rfl | rfl⟩ | ⟨inside, rfl⟩
    · rw [solid letter rfl] at blank
      cases blank
    · exact noLine more rfl
    · exact noHash more rfl
    · exact noBlock inside rfl

/-- Less stands behind the end of a comment than in front of it. -/
theorem afterClosing?_shorter {text rest : Text} (found : afterClosing? text = some rest) :
    rest.length < text.length := by
  obtain ⟨body, rfl, _⟩ := afterClosing?_eq_some found
  simp only [List.length_append, List.length_cons]
  omega

/-- A round of trivia depends only on what follows in shorter sources. -/
theorem triviaRound_congr {again other : Text → Except Failure Text} {source : Text}
    (same : ∀ start : Text, start.length < source.length → other start = again start) :
    triviaRound other source = triviaRound again source := by
  have short : (Text.trimLeft source).length ≤ source.length :=
    (List.dropWhile_suffix Text.isBlank).length_le
  rw [triviaRound, triviaRound]
  generalize Text.trimLeft source = start at short
  have line (rest : Text) (less : rest.length < start.length) :
      other (rest.dropWhile (· ≠ '\n')) = again (rest.dropWhile (· ≠ '\n')) := by
    have left : rest.dropWhile (· ≠ '\n') <:+ rest := List.dropWhile_suffix _
    exact same _ (left.length_le.trans_lt (less.trans_le short))
  split
  · exact line _ (by simp only [List.length_cons]; omega)
  · exact line _ (by simp only [List.length_cons]; omega)
  · next inside =>
    split
    · next rest closed =>
      have shorter := afterClosing?_shorter closed
      simp only [List.length_cons] at short
      exact same rest (by omega)
    · rfl
  · rfl

/-- The rounds of trivia go down. -/
theorem triviaRound_goesDown : GoesDown triviaRound skipTrivia :=
  goesDown_of_congr skipTrivia_eq_triviaRound fun _ _ same => triviaRound_congr same

/-- One round of a quoted body: the quotes that close it, or a unit and what the rounds after it read. -/
def bodyRound (opening : Quoted.Opening) (again : Reader (List UInt8)) : Reader (List UInt8) :=
  fun source =>
    match Text.after? opening.closing source with
    | some rest => .ok ([], rest)
    | none => do
      let (bytes, rest) ← Quoted.unit opening source
      let (more, rest) ← again rest
      return (bytes ++ more, rest)

/-- The units of a body up to the quotes that close it, in as many rounds as there may be. -/
def quotedBody (opening : Quoted.Opening) : Reader (List UInt8) :=
  fun source => Quoted.body opening (source.length + 1) source

/-- The units of a quoted body go down. -/
theorem quotedBody_goesDown (opening : Quoted.Opening) :
    GoesDown (bodyRound opening) (quotedBody opening) := by
  refine goesDown_of_steps (fun _ _ => rfl) fun again other source same => ?_
  rw [bodyRound, bodyRound]
  split
  · rfl
  · refine bind_congr_ok ?_
    rintro ⟨bytes, rest⟩ read
    dsimp only
    rw [same rest (Quoted.unit_consumes opening _ _ _ read).2]

end Rounds

section Calls

/-- A type whose members are read by another reader than the types inside it. -/
def typeFrom (inner : Reader TypeFragment) (member : Reader (FieldFragment TypeFragment)) :
    Reader TypeFragment := fun source => do
  let source ← skipTrivia source
  match afterKeyword? "ARRAY".toList source, afterKeyword? "STRUCT".toList source with
  | some rest, _ =>
    let (element, rest) ← angleType inner rest
    return (.array element, rest)
  | none, some rest =>
    let rest ← skipTrivia rest
    let rest ← token '<' rest
    let (members, rest) ← listUntil member '>' rest
    return (.struct members, rest)
  | none, none => namedType source

/-- A type is read from the types and the fields inside it. -/
theorem typeWith_eq_typeFrom (inner : Reader TypeFragment) :
    typeWith inner = typeFrom inner (structField inner) := by
  funext source
  refine bind_congr_ok fun start _ => ?_
  cases afterKeyword? "ARRAY".toList start with
  | some rest => rfl
  | none =>
      cases afterKeyword? "STRUCT".toList start with
      | some rest => exact bind_congr_ok fun opening _ => bind_assoc (token '<' opening) _ _
      | none => rfl

/-- A type depends only on the types and the fields of shorter sources. -/
theorem typeFrom_congr {inner other : Reader TypeFragment}
    {member item : Reader (FieldFragment TypeFragment)} (consumes : Consumes item) {source : Text}
    (types : ∀ start : Text, start.length < source.length → inner start = other start)
    (members : ∀ start : Text, start.length < source.length → member start = item start) :
    typeFrom inner member source = typeFrom other item source := by
  refine bind_congr_ok fun start skip => ?_
  have short := (skipTrivia_suffix skip).length_le
  split
  · next after _ keyword =>
    have shorter := (afterKeyword?_properEnd keyword).2
    rw [angleType_congr fun next shortest => types next (by omega)]
  · next after _ keyword =>
    have shorter := (afterKeyword?_properEnd keyword).2
    refine bind_congr_ok fun opening skip => bind_congr_ok fun inside opens => ?_
    have shortest := (skipTrivia_suffix skip).length_le
    obtain rfl := token_eq_ok_iff.mp opens
    rw [List.length_cons] at shortest
    rw [listUntil_congr consumes fun next inner => members next (by omega)]
  · rfl

/-- The readers that call themselves, directly or through one another. -/
inductive Caller where
  | type
  | member
  | expression
  deriving DecidableEq

/-- One reader, at work on a source, calls another one on a text. Types and members hold no expressions,
so calls among them do not pass through an expression. -/
inductive Calls : Caller × Text → Caller × Text → Prop
  | element {source text : Text}
      (asks : Asks (fun inner => typeFrom inner (structField type)) type source text) :
      Calls (.type, source) (.type, text)
  | member {source text : Text} (asks : Asks (typeFrom type) (structField type) source text) :
      Calls (.type, source) (.member, text)
  | memberType {source text : Text} (asks : Asks structField type source text) :
      Calls (.member, source) (.type, text)
  | expression {source text : Text} (asks : Asks expressionWith expression source text) :
      Calls (.expression, source) (.expression, text)

/-- Along the calls the source gets shorter, or a member calls its type on what it was called on. -/
def weight (call : Caller × Text) : Nat := 2 * call.2.length + if call.1 = .member then 1 else 0

/-- Every call is lighter than its caller: its source is shorter, or it stands as long and the caller
ranks above it. -/
theorem Calls.weight_lt {earlier later : Caller × Text} (calls : Calls earlier later) :
    weight later < weight earlier := by
  have members : Consumes (structField type) := structField_consumes type_consumes
  cases calls with
  | @element source text asks =>
      have shorter : text.length < source.length :=
        asks.among fun other same => typeFrom_congr members same fun _ _ => rfl
      simp only [weight, reduceCtorEq, if_false]
      omega
  | @member source text asks =>
      have shorter : text.length < source.length :=
        asks.among fun other same => typeFrom_congr members (fun _ _ => rfl) same
      simp only [weight, reduceCtorEq, if_false, if_true]
      omega
  | @memberType source text asks =>
      -- The type may stand where the member does: a keyword that was read as a name is read again.
      have short : text.length ≤ source.length := asks.among fun other same => structField_congr same
      simp only [weight, reduceCtorEq, if_false, if_true]
      omega
  | @expression source text asks =>
      have shorter : text.length < source.length :=
        asks.among fun other same => expressionWith_congr expression_consumes same
      simp only [weight, reduceCtorEq, if_false]
      omega

/-- Every chain of calls becomes lighter. -/
theorem weight_lt_of_transGen {earlier later : Caller × Text}
    (calls : Relation.TransGen Calls earlier later) : weight later < weight earlier := by
  induction calls with
  | single last => exact last.weight_lt
  | tail _ last ih => exact last.weight_lt.trans ih

/-- A reader that is called again while it is at work is called on a shorter source. -/
theorem shorter_of_transGen {caller : Caller} {source text : Text}
    (calls : Relation.TransGen Calls (caller, source) (caller, text)) :
    text.length < source.length := by
  have lighter := weight_lt_of_transGen calls
  simp only [weight] at lighter
  omega

/-- No chain of calls goes on for ever. -/
theorem calls_wellFounded : WellFounded fun later earlier => Calls earlier later :=
  Subrelation.wf Calls.weight_lt (measure weight).wf

end Calls

section Progress

/-- A named type takes at least one letter. -/
theorem namedType_consumes : Consumes namedType :=
  fun _ _ _ read => (namedType_eq_ok_iff.mp read).properEnd

/-- A path takes at least one letter. -/
theorem path_consumes : Consumes path := by
  intro source value rest read
  obtain ⟨name, after, segments, first, others, rfl⟩ := path_eq_ok_iff.mp read
  exact .of_suffix others.suffix (identifier_consumes _ _ _ first)

/-- The types inside a type are read from shorter sources. -/
theorem type_goesDown : GoesDown typeWith type :=
  goesDown_of_congr type_eq_typeWith fun _ _ same => typeWith_congr type_consumes same

/-- The expressions inside an expression are read from shorter sources. -/
theorem expression_goesDown : GoesDown expressionWith expression :=
  goesDown_of_congr expression_eq_expressionWith fun _ _ same =>
    expressionWith_congr expression_consumes same

/-- Each round of a list of these items goes on with less than it started with, and the last one
leaves less. -/
def ListsGoDown {α : Type} (item : Reader α) : Prop :=
  ∀ close : Char, GoesDown (commaRound item close) (commaItems item close) ∧
    Consumes (commaItems item close)

/-- The lists of items that take something go down, whatever closes them. -/
theorem listsGoDown {α : Type} {item : Reader α} (consumes : Consumes item) : ListsGoDown item :=
  fun close => ⟨commaItems_goesDown consumes close, commaItems_consumes consumes close⟩

/-- Readers make progress and end on every source: what is read stands in front of a shorter rest, the
rounds of each loop and the calls of each reader go down, and no answer depends on the bounds that the
loops and the nesting are run with. -/
theorem readers_progress :
    (∀ source rest, skipTrivia source = .ok rest → rest <:+ source) ∧
    (Consumes type ∧ Consumes (structField type) ∧ Consumes namedType ∧ Consumes expression ∧
      Consumes path ∧ Consumes identifier ∧ Consumes Number.literal ∧ Consumes Quoted.literal) ∧
    (GoesDown triviaRound skipTrivia ∧ GoesDown segmentsRound segments ∧
      (∀ opening, GoesDown (bodyRound opening) (quotedBody opening)) ∧
      ListsGoDown expression ∧ ListsGoDown (argument expression) ∧ ListsGoDown (structField type)) ∧
    (∀ caller source text, Relation.TransGen Calls (caller, source) (caller, text) →
      text.length < source.length) ∧
    (WellFounded fun later earlier => Calls earlier later) ∧
    (GoesDown typeWith type ∧ type = typeFrom type (structField type) ∧
      GoesDown expressionWith expression) ∧
    ∀ depth source, source.length < depth →
      typeAt depth source = type source ∧ expressionAt depth source = expression source := by
  have members : Consumes (structField type) := structField_consumes type_consumes
  have arguments : Consumes (argument expression) := argument_consumes expression_consumes
  have typeSolves : type = typeFrom type (structField type) :=
    (funext type_eq_typeWith).trans (typeWith_eq_typeFrom type)
  refine ⟨fun _ _ => skipTrivia_suffix, ?readers, ?loops, fun _ _ _ => shorter_of_transGen,
    calls_wellFounded, ⟨type_goesDown, typeSolves, expression_goesDown⟩, ?bounds⟩
  case readers =>
    exact ⟨type_consumes, members, namedType_consumes, expression_consumes, path_consumes,
      identifier_consumes, Number.literal_consumes, Quoted.literal_consumes⟩
  case loops =>
    exact ⟨triviaRound_goesDown, segments_goesDown, quotedBody_goesDown,
      listsGoDown expression_consumes, listsGoDown arguments, listsGoDown members⟩
  case bounds =>
    intro depth source deep
    exact ⟨type_nests.levels_eq deep, expression_nests.levels_eq deep⟩

/-- A struct type calls its member, and the member the type behind its name. -/
theorem readers_progress_member :
    Relation.TransGen Calls (.type, "STRUCT<a B>".toList) (.type, "B>".toList) ∧
      "B>".toList.length < "STRUCT<a B>".toList.length := by
  have member : Calls (.type, "STRUCT<a B>".toList) (.member, "a B>".toList) :=
    .member (asks_of_failure (by decide +kernel))
  have inside : Calls (.member, "a B>".toList) (.type, "B>".toList) :=
    .memberType (asks_of_failure (by decide +kernel))
  have calls := (Relation.TransGen.single member).tail inside
  obtain ⟨_, _, _, shorter, _⟩ := readers_progress
  exact ⟨calls, shorter _ _ _ calls⟩

end Progress

end ParamCodec.Grammar
