import ParamCodec.Proofs.Binding.Evaluation
import ParamCodec.Proofs.Grammar.TypeRoundTrip

namespace ParamCodec

open Grammar

/-- A letter that is in none of the parts is not between them either. -/
theorem Text.not_mem_commaSeparated {letter : Char} {parts : List Text} (other : letter ∉ [',', ' '])
    (free : ∀ part ∈ parts, letter ∉ part) : letter ∉ Text.commaSeparated parts := by
  rw [Text.commaSeparated]
  induction parts with
  | nil => exact List.not_mem_nil
  | cons part parts ih =>
      rw [List.forall_mem_cons] at free
      cases parts with
      | nil => rw [List.intercalate_singleton]; exact free.1
      | cons second parts =>
          rw [List.intercalate_cons_cons, List.mem_append, List.mem_append]
          rintro ((inside | between) | behind)
          · exact free.1 inside
          · exact other between
          · exact ih free.2 behind

/-- A name that is empty or needs no backquotes in front of a type: a word other than `ARRAY` and
`STRUCT`. -/
def isPlainName (name : Text) : Bool :=
  name.isEmpty || isWord name && differsFrom ["ARRAY".toList, "STRUCT".toList] name

namespace SqlType

mutual

/-- The names of the fields of all structs in a type. -/
def fieldNames : SqlType → List Text
  | scalar _ => []
  | array none => []
  | array (some element) => element.fieldNames
  | struct fields => namesOfFields fields

def namesOfFields : List (Field SqlType) → List Text
  | [] => []
  | ⟨name, type⟩ :: rest => name :: (type.fieldNames ++ namesOfFields rest)

end

/-- The names in a struct are those of its fields and those in their types. -/
theorem fieldNames_struct {fields : List (Field SqlType)} {holds : Text → Prop} :
    (∀ name ∈ (struct fields).fieldNames, holds name) ↔
      ∀ field ∈ fields, holds field.name ∧ ∀ name ∈ field.type.fieldNames, holds name := by
  rw [fieldNames]
  induction fields with
  | nil => simp [namesOfFields]
  | cons field fields ih =>
      rw [namesOfFields, List.forall_mem_cons, List.forall_mem_append, ih, List.forall_mem_cons, and_assoc]

theorem sql_scalar (kind : ScalarKind) : (scalar kind).sql = kind.name := sql.eq_def _

theorem sql_untyped : (array none).sql = "ARRAY<>".toList := sql.eq_def _

theorem sql_array (element : SqlType) :
    (array (some element)).sql = "ARRAY<".toList ++ element.sql ++ ['>'] := sql.eq_def _

theorem sql_struct (fields : List (Field SqlType)) :
    (struct fields).sql = "STRUCT<".toList ++ Text.commaSeparated (fieldTexts fields) ++ ['>'] :=
  sql.eq_def _

/-- Fields are written one by one. -/
theorem fieldTexts_eq_map (fields : List (Field SqlType)) :
    fieldTexts fields = fields.map fun field => fieldText field.name field.type.sql := by
  induction fields with
  | nil => rfl
  | cons field fields ih => rw [fieldTexts, ih, List.map_cons]

/-- The text of a type has no backquote unless a name in it has one. -/
theorem backquote_not_mem_sql {type : SqlType} (free : ∀ name ∈ type.fieldNames, '\x60' ∉ name) :
    '\x60' ∉ type.sql := by
  induction type using SqlType.induction with
  | scalar kind =>
      rw [sql_scalar]
      cases kind <;> decide
  | untyped =>
      rw [sql_untyped]
      decide
  | array element ih =>
      rw [sql_array, List.mem_append, List.mem_append]
      rintro ((keyword | inside) | close)
      · revert keyword; decide
      · exact ih free inside
      · revert close; decide
  | struct fields ih =>
      rw [fieldNames_struct] at free
      rw [sql_struct, List.mem_append, List.mem_append, fieldTexts_eq_map]
      rintro ((keyword | inside) | close)
      · revert keyword; decide
      · refine Text.not_mem_commaSeparated (by decide) ?_ inside
        intro part member
        obtain ⟨field, within, rfl⟩ := List.mem_map.mp member
        have inType := ih field within (free field within).2
        rw [fieldText]
        split
        · exact inType
        · rw [List.mem_append, List.mem_cons]
          rintro (named | blank | inside)
          · exact (free field within).1 named
          · revert blank; decide
          · exact inType inside
      · revert close; decide

mutual

/-- The fragment that the text of a type should be: its names without backquotes. -/
def fragment : SqlType → TypeFragment
  | scalar kind => .named ⟨kind.name, false⟩ none
  | array none => .array none
  | array (some element) => .array (some element.fragment)
  | struct fields => .struct (fieldFragments fields)

def fieldFragments : List (Field SqlType) → List (FieldFragment TypeFragment)
  | [] => []
  | ⟨name, type⟩ :: rest =>
    ⟨if name.isEmpty then none else some ⟨name, false⟩, some type.fragment⟩ :: fieldFragments rest

end

/-- Fields are written as their fragments are when their types are. -/
theorem fieldTexts_fragments {fields : List (Field SqlType)}
    (each : ∀ field ∈ fields, field.type.fragment.sql = field.type.sql) :
    TypeFragment.fieldTexts (fieldFragments fields) = fieldTexts fields := by
  induction fields with
  | nil => rfl
  | cons field fields ih =>
      rw [List.forall_mem_cons] at each
      rw [fieldFragments, TypeFragment.fieldTexts, each.1, ih each.2, fieldTexts, fieldText]
      split
      · rfl
      · rw [TypeFragment.fieldText, sql_eq_name rfl]

/-- The fragments of fields mean the fields when those of their types mean the types. -/
theorem fieldFragments_mean {fields : List (Field SqlType)}
    (each : ∀ field ∈ fields, field.type.fragment.resolve = .ok field.type) :
    List.Forall₂ TypeFragment.FieldMeans (fieldFragments fields) fields := by
  induction fields with
  | nil => exact .nil
  | cons field fields ih =>
      rw [List.forall_mem_cons] at each
      refine .cons ⟨?_, _, rfl, each.1⟩ (ih each.2)
      dsimp only
      split
      · next empty => exact List.isEmpty_iff.mp empty
      · rfl

/-- Among the types that fragments resolve to, where arrays have element types, a type is written as its
fragment, and this resolves to the type again. -/
theorem fragment_of_resolve {type : SqlType} {written : TypeFragment}
    (resolved : written.resolve = .ok type) :
    type.fragment.sql = type.sql ∧ type.fragment.resolve = .ok type := by
  induction type using SqlType.induction generalizing written with
  | scalar kind =>
      have known : ScalarKind.ofKeyword? kind.name = some kind := by cases kind <;> decide
      refine ⟨?_, ?_⟩
      · rw [fragment, TypeFragment.sql_named, sql_scalar, TypeFragment.namedText, sql_eq_name rfl]
      · simp only [fragment, TypeFragment.resolve, known]
  | untyped =>
      -- No fragment resolves to an array without an element type.
      obtain ⟨_, _, _, same, _⟩ := TypeFragment.array_of_resolve resolved
      cases same
  | array element ih =>
      obtain ⟨inner, _, rfl, same, means⟩ := TypeFragment.array_of_resolve resolved
      cases same
      obtain ⟨text, again⟩ := ih means
      refine ⟨?_, ?_⟩
      · rw [fragment, TypeFragment.sql_array, text, sql_array]
      · rw [fragment, TypeFragment.resolve, again]
        rfl
  | struct fields ih =>
      obtain ⟨members, rfl, means⟩ := TypeFragment.struct_of_resolve resolved
      have each : ∀ field ∈ fields, field.type.fragment.sql = field.type.sql ∧
          field.type.fragment.resolve = .ok field.type := by
        -- The induction needs for each field a fragment that resolves to its type: that of the member
        -- it came from.
        have resolves : ∀ field ∈ fields, ∃ inner : TypeFragment, inner.resolve = .ok field.type := by
          refine forall_mem_of_forall₂ means ?_
          rintro _ _ _ ⟨_, inner, _, same⟩
          exact ⟨inner, same⟩
        intro field member
        obtain ⟨inner, same⟩ := resolves field member
        exact ih field member same
      refine ⟨?_, ?_⟩
      · rw [fragment, TypeFragment.sql_struct, fieldTexts_fragments fun field member => (each field member).1,
          sql_struct]
      · have again := fieldFragments_mean fun field member => (each field member).2
        rw [fragment, TypeFragment.resolve, TypeFragment.resolveFields_eq_ok_iff.mpr again]
        rfl

/-- The fragment of a type can stand without a name. -/
theorem standsAlone_fragment (type : SqlType) : type.fragment.standsAlone = true := by
  match type with
  | scalar kind => cases kind <;> decide
  | array none => rfl
  | array (some _) => rfl
  | struct _ => rfl

/-- Plain names make a fragment that can be written. -/
theorem isWellFormed_fragment {type : SqlType}
    (plain : ∀ name ∈ type.fieldNames, isPlainName name = true) : type.fragment.isWellFormed = true := by
  induction type using SqlType.induction with
  | scalar kind => cases kind <;> decide
  | untyped => rfl
  | array element ih => exact ih plain
  | struct fields ih =>
      rw [fieldNames_struct] at plain
      rw [fragment, TypeFragment.isWellFormed]
      induction fields with
      | nil => rfl
      | cons field fields others =>
          rw [List.forall_mem_cons] at plain ih
          have first := ih.1 plain.1.2
          have rest := others ih.2 plain.2
          have alone := standsAlone_fragment field.type
          rw [isPlainName, Bool.or_eq_true] at plain
          rw [fieldFragments]
          rcases plain.1.1 with empty | named
          · rw [if_pos empty]
            simp only [TypeFragment.areWellFormed, alone, first, rest, Bool.and_self]
          · rw [Bool.and_eq_true] at named
            have stands : field.name.isEmpty = false := by
              refine Bool.eq_false_iff.mpr fun empty => ?_
              rw [List.isEmpty_iff.mp empty] at named
              cases named.1
            have names : Identifier.namesField ⟨field.name, false⟩ = true := by
              simp only [Identifier.namesField, Identifier.isValid, named.1, named.2, Bool.or_true,
                Bool.false_eq_true, if_false, Bool.and_self]
            simp only [stands, Bool.false_eq_true, if_false, TypeFragment.areWellFormed, names, first, rest,
              Bool.and_self]

end SqlType

/-- What is known of a name that was read in a source. -/
structure NameIn (source name : Text) : Prop where
  noBackquote : '\x60' ∉ name
  plain : '\x60' ∉ source → isPlainName name = true

namespace NameIn

/-- A name in an end of a source is one in the source. -/
theorem mono {source whole name : Text} (named : NameIn source name) (inside : source <:+ whole) :
    NameIn whole name :=
  ⟨named.noBackquote, fun free => named.plain fun within => free (inside.subset within)⟩

/-- The empty name needs no letters of the source. -/
theorem empty (source : Text) : NameIn source [] := ⟨List.not_mem_nil, fun _ => rfl⟩

/-- A name in front of the type of a field. -/
theorem of_identifier {source after : Text} {name : Identifier}
    (noComposite : startsComposite source = false) (read : identifier source = .ok (name, after)) :
    NameIn source name.name := by
  obtain ⟨whole, valid, _⟩ := identifier_eq_ok_iff.mp read
  obtain ⟨name, quoted⟩ := name
  cases quoted with
  | true =>
      have free := (Identifier.isValid_quoted.mp valid).2
      refine ⟨free, fun noQuote => absurd ?_ noQuote⟩
      rw [whole, sql_of_quoted free]
      exact List.mem_cons_self
  | false =>
      have isName : isWord name = true := valid
      have letters := List.all_eq_true.mp (isWordPart_of_isWord isName)
      rw [startsComposite_eq (word_of_identifier read rfl), Bool.not_eq_false'] at noComposite
      refine ⟨fun inside => absurd (letters _ inside) (by decide), fun _ => ?_⟩
      rw [isPlainName, isName, noComposite]
      exact Bool.or_true _

end NameIn

namespace Grammar

/-- The names of the members of a struct type come from the source that it was read from. -/
theorem FieldForm.names {type : Reader TypeFragment} {source rest : Text}
    {member : FieldFragment TypeFragment} {field : Field SqlType}
    (form : FieldForm type source member rest) (means : TypeFragment.FieldMeans member field)
    (sound : ∀ inside fragment left, type inside = .ok (fragment, left) →
      ∀ type : SqlType, fragment.resolve = .ok type → ∀ name ∈ type.fieldNames, NameIn inside name) :
    NameIn source field.name ∧ ∀ name ∈ field.type.fieldNames, NameIn source name := by
  obtain ⟨named, fragment, same, resolved⟩ := means
  cases form with
  | composite _ read =>
      cases same
      rw [named]
      exact ⟨.empty source, sound _ _ _ read _ resolved⟩
  | named noComposite first skipped _ read =>
      cases same
      rw [named]
      have inside := (skipTrivia_suffix skipped).trans (identifier_consumes _ _ _ first).1
      refine ⟨.of_identifier noComposite first, fun name member => ?_⟩
      exact (sound _ _ _ read _ resolved name member).mono inside
  | scalar _ _ _ _ _ _ read =>
      cases same
      rw [named]
      exact ⟨.empty source, sound _ _ _ read _ resolved⟩
  | bare _ _ _ _ _ => cases same

/-- The names of a type come from the source that it was read from. -/
theorem type_names {source rest : Text} {fragment : TypeFragment} (read : type source = .ok (fragment, rest)) :
    ∀ type : SqlType, fragment.resolve = .ok type → ∀ name ∈ type.fieldNames, NameIn source name := by
  refine type_induction (motive := fun source fragment _ => ∀ type : SqlType, fragment.resolve = .ok type →
    ∀ name ∈ type.fieldNames, NameIn source name) ?_ read
  intro inner consumes sound source start fragment rest skipped form type resolved
  have begins := skipTrivia_suffix skipped
  cases form with
  | @array after _ element keyword angle =>
      cases angle with
      | absent _ _ => cases resolved
      | present opens read _ =>
          rw [TypeFragment.resolve] at resolved
          obtain ⟨elementType, means, same⟩ := bind_eq_ok_iff.mp resolved
          cases same
          -- The element stands behind the keyword and its bracket, so in an end of the source.
          have behind := (skipTrivia_properEnd opens).1.trans (afterKeyword?_properEnd keyword).1
          exact fun name member => (sound _ _ _ read _ means name member).mono (behind.trans begins)
  | @struct after inside _ members keyword opens listed =>
      rw [TypeFragment.resolve] at resolved
      obtain ⟨fields, means, same⟩ := bind_eq_ok_iff.mp resolved
      cases same
      have behind := ((skipTrivia_properEnd opens).1.trans (afterKeyword?_properEnd keyword).1).trans begins
      have each := listed.values_within (structField_consumes consumes)
      refine SqlType.fieldNames_struct.mpr ?_
      refine forall_mem_of_forall₂ (TypeFragment.resolveFields_eq_ok_iff.mp means) ?_
      intro member within field declares
      obtain ⟨source, after, inSource, read⟩ := each member within
      obtain ⟨start, skipped, form⟩ := structField_eq_ok_iff.mp read
      have place := ((skipTrivia_suffix skipped).trans inSource).trans behind
      obtain ⟨named, names⟩ := form.names declares sound
      exact ⟨named.mono place, fun name member => (names name member).mono place⟩
  | named named =>
      -- A named type resolves to a scalar, which has no names in it.
      have noNames (name : Identifier) (length : Option TypeLength)
          (resolved : (TypeFragment.named name length).resolve = .ok type) : type.fieldNames = [] := by
        rw [TypeFragment.resolve] at resolved
        split at resolved
        · cases resolved
          rfl
        · cases resolved
      have none : type.fieldNames = [] := by
        cases named with
        | plain _ _ _ _ => exact noNames _ _ resolved
        | sized _ _ _ _ _ _ => exact noNames _ _ resolved
      rw [none]
      exact fun _ member => absurd member List.not_mem_nil

end Grammar

/-- The names of a resolved type come from its code. -/
theorem names_of_resolved {code : Text} {typed : TypedValue}
    (resolved : parseType code >>= resolveType = .ok typed) :
    ∀ name ∈ typed.type.fieldNames, NameIn code name := by
  obtain ⟨written, read, means⟩ := bind_eq_ok_iff.mp resolved
  obtain ⟨rest, first, _⟩ := whole_eq_ok_iff.mp (parseType_eq_ok_iff.mp read)
  exact type_names first typed.type (resolveType_eq_ok_iff.mp means).1

/-- The text of a type that a type fragment resolves to is a fragment of the same type exactly when none of
its names needs backquotes, which the text does not have. -/
theorem parseType_sql_iff (code : Text) (typed : TypedValue)
    (resolved : parseType code >>= resolveType = .ok typed) :
    parseType typed.type.sql >>= resolveType = .ok typed ↔
      ∀ name ∈ typed.type.fieldNames, isPlainName name = true := by
  have names := names_of_resolved resolved
  constructor
  · intro again
    have noBackquote := SqlType.backquote_not_mem_sql fun name member => (names name member).noBackquote
    exact fun name member => (names_of_resolved again name member).plain noBackquote
  · intro plain
    obtain ⟨written, _, means⟩ := bind_eq_ok_iff.mp resolved
    obtain ⟨means, placeholder⟩ := resolveType_eq_ok_iff.mp means
    obtain ⟨text, resolves⟩ := SqlType.fragment_of_resolve means
    have read := whole_typeText (SqlType.isWellFormed_fragment plain)
    rw [text] at read
    exact bind_eq_ok_iff.mpr
      ⟨_, parseType_eq_ok_iff.mpr read, resolveType_eq_ok_iff.mpr ⟨resolves, placeholder⟩⟩

/-- A name between backquotes may be a type keyword or a reserved word. -/
theorem parseType_sql_iff_reserved :
    parseType "STRUCT<\x60DATE\x60 INT64, ARRAY<STRUCT<\x60null\x60 JSON>>>".toList >>= resolveType =
        .ok ⟨.struct [⟨"DATE".toList, .scalar .int64⟩,
          ⟨[], .array (some (.struct [⟨"null".toList, .scalar .json⟩]))⟩], .list [.null, .null]⟩ ∧
      parseType "STRUCT<DATE INT64, ARRAY<STRUCT<null JSON>>>".toList >>= resolveType =
        .ok ⟨.struct [⟨"DATE".toList, .scalar .int64⟩,
          ⟨[], .array (some (.struct [⟨"null".toList, .scalar .json⟩]))⟩], .list [.null, .null]⟩ := by
  have resolved : parseType "STRUCT<\x60DATE\x60 INT64, ARRAY<STRUCT<\x60null\x60 JSON>>>".toList >>=
      resolveType = .ok ⟨.struct [⟨"DATE".toList, .scalar .int64⟩,
        ⟨[], .array (some (.struct [⟨"null".toList, .scalar .json⟩]))⟩], .list [.null, .null]⟩ :=
    eq_ok_of_toOption (by decide +kernel)
  exact ⟨resolved, (parseType_sql_iff _ _ resolved).mpr (by decide)⟩

/-- A name that needs backquotes is shown without them, and the text is no type any more. -/
theorem parseType_sql_blankInName :
    parseType "STRUCT<\x60a b\x60 INT64>".toList >>= resolveType =
        .ok ⟨.struct [⟨"a b".toList, .scalar .int64⟩], .list [.null]⟩ ∧
      (SqlType.struct [⟨"a b".toList, .scalar .int64⟩]).sql = "STRUCT<a b INT64>".toList ∧
      ¬ ∃ fragment, parseType "STRUCT<a b INT64>".toList = .ok fragment := by
  refine ⟨eq_ok_of_toOption (by decide +kernel), by decide +kernel, ?_⟩
  rintro ⟨fragment, read⟩
  have none : (parseType "STRUCT<a b INT64>".toList).toOption = none := by decide +kernel
  rw [read] at none
  cases none

end ParamCodec
