import ParamCodec.Proofs.Binding.Resolution
import ParamCodec.Proofs.Grammar.LetterCase

namespace ParamCodec

open Grammar

namespace SqlType

mutual

/-- The same type with the names of its fields in upper case. -/
def upper : SqlType → SqlType
  | scalar kind => scalar kind
  | array none => array none
  | array (some element) => array (some element.upper)
  | struct fields => struct (upperFields fields)

def upperFields : List (Field SqlType) → List (Field SqlType)
  | [] => []
  | ⟨name, type⟩ :: rest => ⟨Text.upper name, type.upper⟩ :: upperFields rest

end

/-- There are as many fields in upper case. -/
theorem length_upperFields (fields : List (Field SqlType)) :
    (upperFields fields).length = fields.length := by
  induction fields with
  | nil => rfl
  | cons field fields ih => rw [upperFields, List.length_cons, List.length_cons, ih]

/-- Names do not count in the placeholder of a type. -/
theorem placeholder_upper (type : SqlType) : type.upper.placeholder = type.placeholder := by
  match type with
  | scalar _ => rfl
  | array none => rfl
  | array (some _) => rfl
  | struct fields =>
      rw [upper, placeholder, placeholder, List.map_const', List.map_const', length_upperFields]

end SqlType

/-- A keyword names its scalar type in either case. -/
theorem ScalarKind.ofKeyword?_upper (word : Text) : ofKeyword? (Text.upper word) = ofKeyword? word := by
  rw [ofKeyword?, ofKeyword?, Text.sameWord_upper]

/-- Errors with one cause, which may have found it in different texts. -/
def Error.SameCode (error other : Error) : Prop := error.code = other.code

namespace TypeFragment

/-- The text of a name is put in upper case with the name. -/
theorem nameText_upper (name : Option Identifier) :
    nameText (name.map Identifier.upper) = Text.upper (nameText name) := by
  cases name <;> rfl

mutual

/-- Names in upper case make a type with names in upper case, or an error of the same kind. -/
theorem resolve_upper : (fragment : TypeFragment) →
    Alike Error.SameCode (fun type other => type.upper = other) fragment.resolve fragment.upper.resolve
  | named name length => by
      change Alike _ _ (named name length).resolve (named ⟨Text.upper name.name, name.quoted⟩ length).resolve
      rw [resolve, resolve, ScalarKind.ofKeyword?_upper]
      cases ScalarKind.ofKeyword? name.name with
      | some kind => exact .ok rfl
      | none => exact .error rfl
  | array none => .error rfl
  | array (some element) => by
      refine (resolve_upper element).bind ?_
      rintro type _ rfl
      exact .ok rfl
  | struct fields => by
      refine (resolveFields_upper 0 fields).bind ?_
      rintro types _ rfl
      exact .ok rfl

/-- Fields in upper case resolve to the types of the fields, in upper case. -/
theorem resolveFields_upper (index : Nat) : (fields : List (FieldFragment TypeFragment)) →
    Alike Error.SameCode (fun types others => SqlType.upperFields types = others)
      (resolveFields index fields) (resolveFields index (upperFields fields))
  | [] => .ok rfl
  | ⟨_, none⟩ :: _ => .error rfl
  | ⟨name, some type⟩ :: rest => by
      refine (resolve_upper type).bind ?_
      rintro resolved _ rfl
      refine (resolveFields_upper (index + 1) rest).bind ?_
      rintro types _ rfl
      rw [nameText_upper]
      exact .ok rfl

end

end TypeFragment

/-- Fragments that differ in the case of their names resolve to types that differ in the case of the
names of their fields, or fail alike. -/
theorem resolveType_ignoresCase {fragment other : TypeFragment} (same : fragment.upper = other.upper) :
    Alike Error.SameCode
      (fun typed found => typed.type.upper = found.type.upper ∧ typed.value = found.value)
      (resolveType fragment) (resolveType other) := by
  have first := fragment.resolve_upper
  have second := other.resolve_upper
  rw [← same] at second
  rw [resolveType, resolveType]
  generalize fragment.resolve = result at first ⊢
  generalize other.resolve = outcome at second ⊢
  generalize fragment.upper.resolve = upper at first second
  cases first with
  | error code =>
      cases second with
      | error otherCode => exact .error (code.trans otherCode.symm)
  | @ok type _ found =>
      cases second with
      | @ok otherType _ otherFound =>
          have types : type.upper = otherType.upper := found.trans otherFound.symm
          have placeholders : type.placeholder = otherType.placeholder := by
            rw [← SqlType.placeholder_upper, types, SqlType.placeholder_upper]
          exact .ok ⟨types, placeholders⟩

/-- Failures at the same place of sources that differ in case are located at the same place. -/
theorem located_ignoresCase {source other : Text} (same : Text.upper source = Text.upper other)
    {failure second : Failure} (failures : failure.upper = second.upper) :
    (located .type source failure).location? = (located .type other second).location? := by
  have rests : failure.rest.length = second.rest.length := by
    rw [← Text.length_upper, ← Text.length_upper second.rest]
    exact congrArg (List.length ∘ Failure.rest) failures
  have sources : source.length = other.length := by
    rw [← Text.length_upper, same, Text.length_upper]
  have before : Text.upper (source.take (source.length - failure.rest.length)) =
      Text.upper (other.take (other.length - second.rest.length)) := by
    rw [Text.upper_take, Text.upper_take, same, sources, rests]
  change some (Location.after _) = some (Location.after _)
  rw [← Location.after_upper, before, Location.after_upper]

/-- Sources that differ in case both parse, to fragments that differ in case, or are both refused at a
place. -/
theorem parseType_alike_in_case {source other : Text} (same : Text.upper source = Text.upper other) :
    Alike (fun error second => ∃ location, error.location? = some location ∧
        second.location? = some location)
      (fun fragment found => fragment.upper = found.upper) (parseType source) (parseType other) := by
  have reads := ignoringCase_keepsWords.type ignoringCase_builds
  exact (reads.whole ignoringCase_keepsWords same).mapError fun _ _ failures =>
    ⟨_, rfl, (located_ignoresCase same failures).symm⟩

/-- Sources that differ in the case of ASCII letters are both types or both none. The types have one
structure and resolve alike, up to the case of the names of fields, and the errors stand at one place. -/
theorem parseType_ignoresCase (source other : Text) (same : Text.upper source = Text.upper other) :
    ((∃ fragment, parseType source = .ok fragment) ↔ ∃ fragment, parseType other = .ok fragment) ∧
    (∀ fragment found, parseType source = .ok fragment → parseType other = .ok found →
      fragment.upper = found.upper ∧
      ((∃ typed second, resolveType fragment = .ok typed ∧ resolveType found = .ok second ∧
          typed.type.upper = second.type.upper ∧ typed.value = second.value) ∨
        ∃ error second, resolveType fragment = .error error ∧ resolveType found = .error second ∧
          error.code = second.code)) ∧
    (∀ error second, parseType source = .error error → parseType other = .error second →
      ∃ location, error.location? = some location ∧ second.location? = some location) := by
  have alike := parseType_alike_in_case same
  generalize parseType source = result at alike ⊢
  generalize parseType other = outcome at alike ⊢
  cases alike with
  | error places =>
      refine ⟨⟨nofun, nofun⟩, nofun, ?_⟩
      rintro _ _ ⟨⟩ ⟨⟩
      exact places
  | @ok fragment found same =>
      refine ⟨⟨fun _ => ⟨_, rfl⟩, fun _ => ⟨_, rfl⟩⟩, ?_, nofun⟩
      rintro _ _ ⟨⟩ ⟨⟩
      refine ⟨same, ?_⟩
      have resolved := resolveType_ignoresCase same
      generalize resolveType fragment = result at resolved ⊢
      generalize resolveType found = outcome at resolved ⊢
      cases resolved with
      | ok types => exact .inl ⟨_, _, rfl, rfl, types⟩
      | error code => exact .inr ⟨_, _, rfl, rfl, code⟩

/-- Two spellings of a struct type, and of a source that breaks off behind its second line. -/
theorem parseType_ignoresCase_struct :
    (parseType "struct<Key Int64, array<Date>>".toList =
        .ok (.struct [⟨some ⟨"Key".toList, false⟩, some (.named ⟨"Int64".toList, false⟩ none)⟩,
          ⟨none, some (.array (some (.named ⟨"Date".toList, false⟩ none)))⟩]) ∧
      ∃ found, parseType "STRUCT<kEY iNT64, ARRAY<dATE>>".toList = .ok found) ∧
    (parseType "array<\n`é`".toList =
        .error (.malformed .type ⟨2, 1, 7, 0⟩ ⟨.identifier, "`é`".toList⟩) ∧
      ∀ error, parseType "ARRAY<\n`é`".toList = .error error →
        error.location? = some ⟨2, 1, 7, 0⟩) := by
  have struct : parseType "struct<Key Int64, array<Date>>".toList =
      .ok (.struct [⟨some ⟨"Key".toList, false⟩, some (.named ⟨"Int64".toList, false⟩ none)⟩,
        ⟨none, some (.array (some (.named ⟨"Date".toList, false⟩ none)))⟩]) :=
    eq_ok_of_toOption (by decide +kernel)
  have broken : parseType "array<\n`é`".toList =
      .error (.malformed .type ⟨2, 1, 7, 0⟩ ⟨.identifier, "`é`".toList⟩) :=
    eq_error_of_match (by decide +kernel)
  have structs := parseType_ignoresCase "struct<Key Int64, array<Date>>".toList
    "STRUCT<kEY iNT64, ARRAY<dATE>>".toList (by decide +kernel)
  have sources := parseType_ignoresCase "array<\n`é`".toList "ARRAY<\n`é`".toList
    (by decide +kernel)
  refine ⟨⟨struct, structs.1.mp ⟨_, struct⟩⟩, broken, fun error failed => ?_⟩
  obtain ⟨_, same, place⟩ := sources.2.2 _ _ broken failed
  cases same
  exact place

end ParamCodec
