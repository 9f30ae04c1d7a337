import ParamCodec.Proofs.Grammar.LikeFragments

namespace ParamCodec.Grammar

/-- One round of a path: a point, an identifier and what the rounds after it read. -/
def segmentsRound (again : Reader (List Identifier)) : Reader (List Identifier) := fun source => do
  let rest ← skipTrivia source
  if startsWith '.' rest then
    let rest ← skipTrivia rest.tail
    let (segment, rest) ← identifier rest
    let (segments, rest) ← again rest
    return (segment :: segments, rest)
  else return ([], source)

/-- The rounds after the first one read a shorter source. -/
theorem segmentsRound_congr {again other : Reader (List Identifier)} {source : Text}
    (same : ∀ start : Text, start.length < source.length → other start = again start) :
    segmentsRound other source = segmentsRound again source := by
  refine bind_congr_ok fun rest skipped => ?_
  split
  · next point =>
    obtain ⟨inside, rfl⟩ := startsWith_iff.mp point
    refine bind_congr_ok fun start skip => bind_congr_ok ?_
    rintro ⟨segment, after⟩ read
    have named := (identifier_consumes _ _ _ read).trans_suffix (skipTrivia_suffix skip)
    dsimp only
    rw [same after (named.trans (skipTrivia_properEnd skipped)).2]
  · rfl

/-- One more step than the source has letters changes nothing. -/
theorem pathSegments_succ {steps : Nat} {source : Text} (enough : source.length ≤ steps) :
    pathSegments (steps + 1) source = pathSegments steps source := by
  induction steps generalizing source with
  | zero =>
      obtain rfl := List.length_eq_zero_iff.mp (Nat.le_zero.mp enough)
      rfl
  | succ steps ih => exact segmentsRound_congr fun start shorter => ih (by omega)

/-- Steps beyond the length of the source do not matter, whether the path is read or not. -/
theorem pathSegments_steps {steps : Nat} {source : Text} (enough : source.length ≤ steps) :
    pathSegments steps source = pathSegments source.length source := by
  induction enough with
  | refl => rfl
  | step enough ih => rw [pathSegments_succ enough, ih]

namespace Likeness

variable {like : Likeness}

/-- Alike sources hold the same words, numbers and strings. -/
structure KeepsLiterals (like : Likeness) : Prop extends like.KeepsWords where
  same : ∀ name other, like.words name other → name = other
  startsLiteral : ∀ source other, like.texts source other →
    Quoted.startsLiteral source = Quoted.startsLiteral other
  startsNumber : ∀ source other, like.texts source other →
    (source.head?.map isNumberStart).getD false = (other.head?.map isNumberStart).getD false
  quoted : like.Reads Eq Quoted.literal
  number : like.Reads Eq Number.literal

/-- Optional values that are alike are equal when alike values are. -/
theorem eq_of_rel {α : Type} {values : α → α → Prop} {first second : Option α}
    (alike : Option.Rel values first second)
    (same : ∀ value other, values value other → value = other) : first = second := by
  cases alike with
  | some alike => rw [same _ _ alike]
  | none => rfl

section Literals

variable (keeps : like.KeepsLiterals)

include keeps

/-- Alike names are equal. -/
theorem KeepsLiterals.name_eq {name other : Identifier} (alike : like.Names name other) :
    name = other := by
  obtain ⟨text, quoted⟩ := name
  rw [Identifier.mk.injEq]
  exact ⟨keeps.same _ _ alike.2, alike.1⟩

/-- Fields with equal types and alike names are equal. -/
theorem KeepsLiterals.fields_eq {fields others : List (FieldFragment TypeFragment)}
    (alikes : List.Forall₂ (like.Fields Eq) fields others) : fields = others := by
  rw [← List.forall₂_eq_eq_eq]
  refine alikes.imp fun ⟨name, type⟩ ⟨label, found⟩ ⟨names, types⟩ => ?_
  rw [FieldFragment.mk.injEq]
  exact ⟨eq_of_rel names fun _ _ => keeps.name_eq, eq_of_rel types fun _ _ => id⟩

/-- The same names are read from alike sources. -/
theorem KeepsLiterals.names : like.Reads Eq identifier :=
  keeps.identifier.imp fun _ _ => keeps.name_eq

/-- Types of the same parts are the same. -/
theorem KeepsLiterals.builds : like.Builds Eq where
  named := fun _ _ _ words => by rw [keeps.same _ _ words]
  array := fun _ _ alike => by rw [eq_of_rel alike fun _ _ => id]
  struct := fun _ _ alikes => by rw [keeps.fields_eq alikes]

/-- The same types are read from alike sources. -/
theorem KeepsLiterals.type : like.Reads Eq type := keeps.toKeepsWords.type keeps.builds

/-- The same strings are read from alike sources. -/
theorem KeepsLiterals.text : like.Reads Eq Quoted.text := by
  intro source other same
  refine keeps.quoted.bind same ?_
  rintro value _ rest left rfl sameRest
  cases value with
  | string text => exact .ok ⟨rfl, sameRest⟩
  | _ => exact .error (keeps.fails _ _ _ same)

/-- The same segments are read from alike sources. -/
theorem KeepsLiterals.pathSegments (steps : Nat) : like.Reads Eq (pathSegments steps) := by
  induction steps with
  | zero => exact fun source other same => .ok ⟨rfl, same⟩
  | succ steps ih =>
      intro source other same
      rw [Grammar.pathSegments, Grammar.pathSegments]
      refine keeps.behindTrivia same fun rest left sameRest => ?_
      refine .choose (keeps.startsWith _ _ sameRest '.' (by decide)) (fun point => ?_)
        (fun _ => .ok ⟨rfl, same⟩)
      refine keeps.behindTrivia (keeps.tail _ _ sameRest '.' (by decide) point) fun _ _ same => ?_
      refine keeps.names.bind same ?_
      rintro segment _ rest left rfl same
      refine ih.bind same ?_
      rintro segments _ rest left rfl same
      exact .ok ⟨rfl, same⟩

/-- The same paths are read from alike sources. -/
theorem KeepsLiterals.path : like.Reads Eq path := by
  intro source other same
  refine keeps.names.bind same ?_
  rintro first _ rest left rfl same
  have both := keeps.pathSegments (max rest.length left.length) _ _ same
  rw [pathSegments_steps (Nat.le_max_left _ _), pathSegments_steps (Nat.le_max_right _ _)] at both
  refine both.bind ?_
  rintro _ _ ⟨rfl, same⟩
  exact .ok ⟨rfl, same⟩

section Nested

variable {α : Type} {item : Reader α} {inner : Reader Expression}

/-- The same lists between commas are read from alike sources, with as many steps as each has letters.
-/
theorem KeepsLiterals.wholeList {close : Char} (isMark : close ∈ marks) (consumes : Consumes item)
    (reads : like.Reads Eq item) :
    like.Reads Eq fun source => commaList item close (source.length + 1) source := by
  have lists := reads.wholeList keeps.toKeepsWords isMark consumes
  rwa [List.forall₂_eq_eq_eq] at lists

/-- The same lists up to a closing mark are read from alike sources. -/
theorem KeepsLiterals.listUntil {close : Char} (isMark : close ∈ marks) (consumes : Consumes item)
    (reads : like.Reads Eq item) : like.Reads Eq (listUntil item close) := by
  have lists := reads.listUntil keeps.toKeepsWords isMark consumes
  rwa [List.forall₂_eq_eq_eq] at lists

variable (reads : like.Reads Eq inner)

include reads

/-- The same arguments are read from alike sources when their expressions are. -/
theorem KeepsLiterals.argument : like.Reads Eq (argument inner) := by
  intro source other same
  refine reads.bind same ?_
  rintro value _ rest left rfl same
  refine keeps.behindTrivia same fun rest left same => ?_
  have keyword := keeps.afterKeyword "AS".toList same
  generalize afterKeyword? "AS".toList rest = first at keyword ⊢
  generalize afterKeyword? "AS".toList left = second at keyword ⊢
  cases keyword with
  | some same =>
      refine keeps.behindTrivia same fun start begin same => ?_
      refine keeps.names.bind same ?_
      rintro label _ rest left rfl same
      exact .ok ⟨rfl, same⟩
  | none => exact .ok ⟨rfl, same⟩

variable (consumes : Consumes inner)

include consumes

/-- The same items of an array are read from alike sources when their expressions are. -/
theorem KeepsLiterals.arrayItems : like.Reads Eq (arrayItems inner) := by
  intro source other same
  refine (keeps.token (by decide) same).bind fun rest left same => ?_
  exact keeps.listUntil (by decide) consumes reads _ _ same

/-- The same structs are read from alike sources when their expressions are. -/
theorem KeepsLiterals.structLiteral : like.Reads Eq (structLiteral inner) := by
  intro source other same
  refine keeps.behindTrivia same fun rest left same => ?_
  refine .choose (keeps.startsWith _ _ same '<' (by decide)) (fun _ => ?_) (fun _ => ?_)
  · refine (keeps.type.structFields keeps.toKeepsWords type_consumes).bind same ?_
    intro fields others rest left alikes same
    obtain rfl := keeps.fields_eq alikes
    refine keeps.behindTrivia same fun rest left same => ?_
    refine (keeps.token (by decide) same).bind fun rest left same => ?_
    refine (keeps.listUntil (by decide) consumes reads).bind same ?_
    rintro values _ rest left rfl same
    exact .ok ⟨rfl, same⟩
  · refine (keeps.token (by decide) same).bind fun rest left same => ?_
    refine (keeps.listUntil (by decide) (argument_consumes consumes) (keeps.argument reads)).bind
      same ?_
    rintro arguments _ rest left rfl same
    exact .ok ⟨rfl, same⟩

/-- The same is read in round brackets from alike sources when the expressions inside are. -/
theorem KeepsLiterals.parentheses : like.Reads Eq (parentheses inner) := by
  intro source other same
  refine (keeps.wholeList (by decide) consumes reads).bind same ?_
  rintro values _ rest left rfl same
  match values with
  | [] | [_] | _ :: _ :: _ => exact .ok ⟨rfl, same⟩

/-- The same is read behind a word from alike sources when the expressions inside are. -/
theorem KeepsLiterals.wordExpression : like.Reads Eq (wordExpression inner) := by
  intro source other same
  refine keeps.word.bind same fun name found rest left words sameRest => ?_
  obtain rfl := keeps.same _ _ words
  refine .choose rfl (fun _ => .ok ⟨rfl, sameRest⟩) fun _ => ?_
  refine .choose rfl (fun _ => .ok ⟨rfl, sameRest⟩) fun _ => ?_
  refine .choose rfl (fun _ => .ok ⟨rfl, sameRest⟩) fun _ => ?_
  refine .choose rfl (fun _ => ?_) fun _ => ?_
  · refine (keeps.type.angleType keeps.toKeepsWords).bind sameRest ?_
    intro element found rest left alike same
    obtain rfl := eq_of_rel alike fun _ _ => id
    refine keeps.behindTrivia same fun rest left same => ?_
    refine (keeps.arrayItems reads consumes).bind same ?_
    rintro items _ rest left rfl same
    exact .ok ⟨rfl, same⟩
  refine .choose rfl (fun _ => keeps.structLiteral reads consumes _ _ sameRest) fun _ => ?_
  cases taggedLiteral? name with
  | none => exact keeps.path _ _ same
  | some tagged =>
      refine keeps.behindTrivia sameRest fun rest left sameRest => ?_
      refine .choose (keeps.startsLiteral _ _ sameRest) (fun _ => ?_) (fun _ => keeps.path _ _ same)
      refine keeps.text.bind sameRest ?_
      rintro text _ rest left rfl same
      exact .ok ⟨rfl, same⟩

/-- The same expressions are read from alike sources when those inside them are. -/
theorem KeepsLiterals.expressionWith : like.Reads Eq (expressionWith inner) := by
  intro source other same
  refine keeps.behindTrivia same fun start begin same => ?_
  refine .choose (keeps.startsWith _ _ same '[' (by decide)) (fun _ => ?_) fun _ => ?_
  · refine (keeps.arrayItems reads consumes).bind same ?_
    rintro items _ rest left rfl same
    exact .ok ⟨rfl, same⟩
  refine .choose (keeps.startsWith _ _ same '(' (by decide)) (fun opens => ?_) fun _ => ?_
  · exact keeps.parentheses reads consumes _ _ (keeps.tail _ _ same '(' (by decide) opens)
  refine .choose (keeps.startsWith _ _ same '@' (by decide)) (fun marked => ?_) fun _ => ?_
  · refine keeps.names.bind (keeps.tail _ _ same '@' (by decide) marked) ?_
    rintro name _ rest left rfl same
    exact .ok ⟨rfl, same⟩
  refine .choose (keeps.startsLiteral _ _ same) (fun _ => ?_) fun _ => ?_
  · refine keeps.quoted.bind same ?_
    rintro value _ rest left rfl same
    exact .ok ⟨rfl, same⟩
  refine .choose (keeps.startsNumber _ _ same) (fun _ => ?_) fun _ => ?_
  · refine keeps.number.bind same ?_
    rintro value _ rest left rfl same
    exact .ok ⟨rfl, same⟩
  exact .choose (keeps.startsWith _ _ same '\x60' (by decide)) (fun _ => keeps.path _ _ same)
    fun _ => keeps.wordExpression reads consumes _ _ same

end Nested

/-- Alike sources are read as the same expression. -/
theorem KeepsLiterals.expression : like.Reads Eq expression :=
  Reads.nested expression_nests (fun _ _ same => .error (keeps.fails _ _ _ same))
    fun _ consumes reads => keeps.expressionWith reads consumes

end Literals

end Likeness

end ParamCodec.Grammar
