import ParamCodec.Grammar.Fragment
import ParamCodec.Proofs.Grammar.TypeForms

namespace ParamCodec

/-- The word is none of the keywords in any case. -/
def differsFrom (keywords : List Text) (word : Text) : Bool := !keywords.contains (Text.upper word)

/-- A word that can name a type. -/
def isTypeName (name : Text) : Bool :=
  isWord name && differsFrom
    ["NULL".toList, "TRUE".toList, "FALSE".toList, "ARRAY".toList, "STRUCT".toList] name

namespace TypeLength

/-- Lengths are below two to the power of 64. -/
def isWellFormed : TypeLength → Bool
  | maximum => true
  | fixed count => count < 2 ^ 64

end TypeLength

namespace Identifier

/-- A name that can stand in front of the type of a field. -/
def namesField (name : Identifier) : Bool :=
  name.isValid && (name.quoted || differsFrom ["ARRAY".toList, "STRUCT".toList] name.name)

/-- A name that can stand for a field without a type. -/
def standsAlone (name : Identifier) : Bool :=
  name.isValid &&
    (name.quoted || differsFrom (["ARRAY".toList, "STRUCT".toList] ++ scalarKeywords) name.name)

end Identifier

namespace TypeFragment

/-- A type that can stand for a field without a name. -/
def standsAlone : TypeFragment → Bool
  | named name _ => !differsFrom scalarKeywords name.name
  | array _ => true
  | struct _ => true

mutual

/-- The types that can be written. -/
def isWellFormed : TypeFragment → Bool
  | named name length =>
    !name.quoted && isTypeName name.name && length.all TypeLength.isWellFormed
  | array none => true
  | array (some element) => element.isWellFormed
  | struct fields => areWellFormed fields

/-- The members of struct types that can be written. -/
def areWellFormed : List (FieldFragment TypeFragment) → Bool
  | [] => true
  | ⟨some name, some type⟩ :: rest => name.namesField && type.isWellFormed && areWellFormed rest
  | ⟨none, some type⟩ :: rest => type.standsAlone && type.isWellFormed && areWellFormed rest
  | ⟨some name, none⟩ :: rest => name.standsAlone && areWellFormed rest
  | ⟨none, none⟩ :: _ => false

end

end TypeFragment

namespace Grammar

/-- A word is a keyword when its upper case letters are those of the keyword. -/
theorem sameWord_iff {word keyword : Text} (upper : Text.upper keyword = keyword) :
    Text.sameWord word keyword = true ↔ Text.upper word = keyword := by
  rw [Text.sameWord, beq_iff_eq, upper]

/-- Among keywords in upper case a word is found by its upper case. -/
theorem isAmong_eq_not_differsFrom {keywords : List Text} {word : Text}
    (upper : ∀ keyword ∈ keywords, Text.upper keyword = keyword) :
    isAmong keywords word = !differsFrom keywords word := by
  rw [differsFrom, Bool.not_not, Bool.eq_iff_iff, isAmong, List.any_eq_true, List.contains_iff_mem]
  constructor
  · rintro ⟨keyword, listed, same⟩
    rwa [(sameWord_iff (upper keyword listed)).mp same]
  · intro listed
    exact ⟨_, listed, (sameWord_iff (upper _ listed)).mpr rfl⟩

/-- A word differs from two lists of keywords when it differs from each of them. -/
theorem differsFrom_append (first second : List Text) (word : Text) :
    differsFrom (first ++ second) word = (differsFrom first word && differsFrom second word) := by
  simp only [differsFrom, List.contains_append, Bool.not_or]

/-- The reserved words are the three constants and the two composite types. -/
theorem isReserved_eq (word : Text) : isReserved word =
    !(differsFrom ["NULL".toList, "TRUE".toList, "FALSE".toList] word &&
      differsFrom ["ARRAY".toList, "STRUCT".toList] word) := by
  rw [← differsFrom_append]
  exact isAmong_eq_not_differsFrom (by decide)

/-- The keywords of types are the composite ones and the scalar ones. -/
theorem isTypeKeyword_eq (word : Text) : isTypeKeyword word =
    !(differsFrom ["ARRAY".toList, "STRUCT".toList] word && differsFrom scalarKeywords word) := by
  rw [← differsFrom_append]
  exact isAmong_eq_not_differsFrom (by decide)

/-- Only a word can start a composite type, and it is `ARRAY` or `STRUCT` in some case. -/
theorem startsComposite_eq {source name rest : Text} (read : word source = .ok (name, rest)) :
    startsComposite source = !differsFrom ["ARRAY".toList, "STRUCT".toList] name := by
  have among : isAmong ["ARRAY".toList, "STRUCT".toList] name = _ :=
    isAmong_eq_not_differsFrom (by decide)
  rw [← among]
  simp only [startsComposite, afterKeyword?, read, isAmong, List.any_cons, List.any_nil]
  split <;> split <;> simp_all

/-- A word that is read and is not reserved may name a type. -/
theorem isTypeName_eq {source name rest : Text} (read : word source = .ok (name, rest))
    (free : isReserved name = false) : isTypeName name = true := by
  rw [isReserved_eq, Bool.not_eq_false', ← differsFrom_append] at free
  rw [isTypeName, (word_eq_ok_iff.mp read).2.1, Bool.true_and]
  exact free

/-- A length that is read is well formed. -/
theorem LengthForm.isWellFormed {source rest : Text} {length : TypeLength}
    (form : LengthForm source length rest) : length.isWellFormed = true := by
  cases form with
  | maximum _ => rfl
  | fixed _ _ _ _ _ small =>
      refine decide_eq_true (Nat.lt_of_le_of_lt small ?_)
      decide

/-- A named type that is read is well formed. -/
theorem NamedForm.isWellFormed {source rest : Text} {type : TypeFragment}
    (form : NamedForm source type rest) : type.isWellFormed = true := by
  cases form with
  | plain read free _ _ =>
      simp [TypeFragment.isWellFormed, isTypeName_eq read free]
  | sized read free _ _ sized _ =>
      simp [TypeFragment.isWellFormed, isTypeName_eq read free, sized.isWellFormed]

/-- A type read from a source is well formed, and stands alone behind a type keyword. -/
structure ReadsWell (source : Text) (fragment : TypeFragment) : Prop where
  wellFormed : fragment.isWellFormed = true
  standsAlone {start name after : Text} (skipped : skipTrivia source = .ok start)
    (read : word start = .ok (name, after)) (keyword : isTypeKeyword name = true) :
    fragment.standsAlone = true

/-- A type keyword that is not reserved names a scalar type. -/
theorem NamedForm.standsAlone {source name after rest : Text} {type : TypeFragment}
    (form : NamedForm source type rest) (read : word source = .ok (name, after))
    (keyword : isTypeKeyword name = true) : type.standsAlone = true := by
  have scalar (free : isReserved name = false) : differsFrom scalarKeywords name = false := by
    rw [isReserved_eq, Bool.not_eq_false', Bool.and_eq_true] at free
    rwa [isTypeKeyword_eq, free.2, Bool.true_and, Bool.not_eq_true'] at keyword
  cases form with
  | plain first free _ _ =>
      obtain ⟨rfl, _⟩ := Prod.mk.inj (Except.ok.inj (first.symm.trans read))
      simp [TypeFragment.standsAlone, scalar free]
  | sized first free _ _ _ _ =>
      obtain ⟨rfl, _⟩ := Prod.mk.inj (Except.ok.inj (first.symm.trans read))
      simp [TypeFragment.standsAlone, scalar free]

/-- The word at the start of a composite type is a keyword of types. -/
theorem isTypeKeyword_of_composite {source name rest : Text} (read : word source = .ok (name, rest))
    (starts : startsComposite source = true) : isTypeKeyword name = true := by
  rw [startsComposite_eq read, Bool.not_eq_true'] at starts
  rw [isTypeKeyword_eq, starts, Bool.false_and, Bool.not_false]

/-- A composite type starts with a word. -/
theorem word_of_startsComposite {source : Text} (starts : startsComposite source = true) :
    ∃ name rest, word source = .ok (name, rest) := by
  cases read : word source with
  | ok pair => exact ⟨pair.1, pair.2, rfl⟩
  | error failure => simp [startsComposite, afterKeyword?, read] at starts

/-- A field that is read is well formed when the types that are read are. -/
theorem FieldForm.areWellFormed {source rest : Text} {field : FieldFragment TypeFragment}
    {type : Reader TypeFragment} (form : FieldForm type source field rest)
    (solid : skipTrivia source = .ok source)
    (sound : ∀ source fragment rest, type source = .ok (fragment, rest) → ReadsWell source fragment) :
    TypeFragment.areWellFormed [field] = true := by
  cases form with
  | composite starts read =>
      obtain ⟨name, after, head⟩ := word_of_startsComposite starts
      have well := sound _ _ _ read
      have alone := well.standsAlone solid head (isTypeKeyword_of_composite head starts)
      simp [TypeFragment.areWellFormed, well.wellFormed, alone]
  | @named name _ _ _ _ starts first _ _ read =>
      have valid := (identifier_eq_ok_iff.mp first).2.1
      have free : name.namesField = true := by
        cases quoted : name.quoted with
        | true => simp [Identifier.namesField, valid, quoted]
        | false =>
            rw [startsComposite_eq (word_of_identifier first quoted), Bool.not_eq_false'] at starts
            simp only [Identifier.namesField, valid, quoted, starts, Bool.or_true, Bool.and_self]
      simp [TypeFragment.areWellFormed, free, (sound _ _ _ read).wellFormed]
  | scalar _ first _ _ plain keyword read =>
      have well := sound _ _ _ read
      have alone := well.standsAlone solid (word_of_identifier first plain) keyword
      simp [TypeFragment.areWellFormed, well.wellFormed, alone]
  | @bare name _ _ _ first _ _ free =>
      have valid := (identifier_eq_ok_iff.mp first).2.1
      rw [isTypeKeyword_eq, Bool.not_eq_false', ← differsFrom_append] at free
      rcases free with quoted | free
      · simp [TypeFragment.areWellFormed, Identifier.standsAlone, valid, quoted]
      · simp only [TypeFragment.areWellFormed, Identifier.standsAlone, valid, free, Bool.or_true,
          Bool.and_self]

/-- A list of fields is well formed when each field is. -/
theorem areWellFormed_iff {fields : List (FieldFragment TypeFragment)} :
    TypeFragment.areWellFormed fields = true ↔
      ∀ field ∈ fields, TypeFragment.areWellFormed [field] = true := by
  induction fields with
  | nil => simp [TypeFragment.areWellFormed]
  | cons field fields ih =>
      rw [List.forall_mem_cons, ← ih]
      obtain ⟨_ | name, _ | type⟩ := field <;> simp [TypeFragment.areWellFormed, and_assoc]

/-- The members of a struct type are well formed when the types that are read in it are. -/
theorem ListedUntil.areWellFormed {type : Reader TypeFragment} {source rest : Text}
    {fields : List (FieldFragment TypeFragment)}
    (listed : ListedUntil (structField type) '>' source fields rest)
    (sound : ∀ source fragment rest, type source = .ok (fragment, rest) → ReadsWell source fragment) :
    TypeFragment.areWellFormed fields = true := by
  apply areWellFormed_iff.mpr
  intro field member
  obtain ⟨start, after, read⟩ := listed.values_read field member
  obtain ⟨solid, skip, form⟩ := structField_eq_ok_iff.mp read
  exact form.areWellFormed (skipTrivia_idem skip) sound

/-- Every type that is read is well formed. -/
theorem type_readsWell {source rest : Text} {fragment : TypeFragment}
    (read : type source = .ok (fragment, rest)) : ReadsWell source fragment := by
  refine type_induction (motive := fun source fragment _ => ReadsWell source fragment) ?_ read
  intro inner consumes sound source start fragment rest skipped form
  cases form with
  | @array after _ element keyword angle =>
      refine ⟨?_, fun _ _ _ => rfl⟩
      cases angle with
      | absent _ _ => rfl
      | present _ read _ => exact (sound _ _ _ read).wellFormed
  | struct keyword opens listed =>
      exact ⟨listed.areWellFormed sound, fun _ _ _ => rfl⟩
  | named named =>
      refine ⟨named.isWellFormed, fun {begin name after} skip read keyword => ?_⟩
      obtain rfl : start = begin := Except.ok.inj (skipped.symm.trans skip)
      exact named.standsAlone read keyword

/-- All fields of a list that is read are well formed. -/
theorem areWellFormed_of_listed {source rest : Text} {fields : List (FieldFragment TypeFragment)}
    (listed : ListedUntil (structField type) '>' source fields rest) :
    TypeFragment.areWellFormed fields = true :=
  listed.areWellFormed fun _ _ _ read => type_readsWell read

end Grammar

end ParamCodec
