import ParamCodec.Proofs.FirstFault
import ParamCodec.Proofs.Typed.Wire

namespace ParamCodec

/-- The codes that types can have on the wire. -/
def supportedCodes : List Text :=
  ["BOOL".toList, "INT64".toList, "FLOAT32".toList, "FLOAT64".toList, "TIMESTAMP".toList, "DATE".toList,
   "STRING".toList, "BYTES".toList, "ARRAY".toList, "STRUCT".toList, "NUMERIC".toList, "JSON".toList]

namespace WireType

/-- Where a wire type may be wrong: a code, or a field of a struct that lacks its type. -/
inductive Place where
  | code (name : Text)
  | untypedField (name : Text) (index : Nat)

/-- The error of a place. A field without type is called by its name or, without one, by its index. -/
def Place.fault? : Place → Option Error
  | code name => if name ∈ supportedCodes then none else some (.unknownTypeCode name)
  | untypedField name index =>
    some (.missingElementType (.wireField (if name = [] then Text.decimal index else name)))

mutual

/-- The places of a wire type, each code before those of the types under it. An element type counts only
under the code of arrays, fields only under that of structs. -/
def places : WireType → List Place
  | node code element fields =>
    .code code ::
      if code = "ARRAY".toList then elementPlaces element
      else if code = "STRUCT".toList then structPlaces fields
      else []

def elementPlaces : Option WireType → List Place
  | none => []
  | some element => element.places

def structPlaces : Option (List (WireField WireType)) → List Place
  | none => []
  | some fields => fieldPlaces 0 fields

def fieldPlaces (index : Nat) : List (WireField WireType) → List Place
  | [] => []
  | ⟨name, none⟩ :: rest => .untypedField name index :: fieldPlaces (index + 1) rest
  | ⟨_, some type⟩ :: rest => type.places ++ fieldPlaces (index + 1) rest

end

mutual

/-- The wire type without the parts that do not count; under the code of structs there are fields. -/
def pruned : WireType → WireType
  | node code element fields =>
    if code = "ARRAY".toList then node code (prunedElement element) none
    else if code = "STRUCT".toList then node code none (some (prunedStruct fields))
    else node code none none

def prunedElement : Option WireType → Option WireType
  | none => none
  | some element => some element.pruned

def prunedStruct : Option (List (WireField WireType)) → List (WireField WireType)
  | none => []
  | some fields => prunedFields fields

def prunedFields : List (WireField WireType) → List (WireField WireType)
  | [] => []
  | ⟨name, none⟩ :: rest => ⟨name, none⟩ :: prunedFields rest
  | ⟨name, some type⟩ :: rest => ⟨name, some type.pruned⟩ :: prunedFields rest

end

end WireType

namespace TypeCode

/-- A code is found by its own name only. -/
theorem eq_name_of_ofName? {name : Text} {code : TypeCode} (found : ofName? name = some code) :
    name = code.name := by
  rw [ofName?] at found
  have same := List.find?_some found
  exact (beq_iff_eq.mp same).symm

/-- The supported codes are the names of all codes but the one that says nothing. -/
theorem mem_supportedCodes_iff {name : Text} :
    name ∈ supportedCodes ↔ ofName? name ≠ none ∧ ofName? name ≠ some .unspecified := by
  constructor
  · revert name
    decide
  · rintro ⟨known, specified⟩
    obtain ⟨code, found⟩ := Option.ne_none_iff_exists'.mp known
    obtain rfl := eq_name_of_ofName? found
    rcases code with _ | kind | _ | _
    · exact absurd found specified
    · cases kind <;> decide
    · decide
    · decide

end TypeCode

/-- A code that names a type is no fault. -/
theorem WireType.Place.fault?_known {name : Text} {code : TypeCode}
    (found : TypeCode.ofName? name = some code) (specified : code ≠ .unspecified) :
    (Place.code name).fault? = none :=
  if_pos (TypeCode.mem_supportedCodes_iff.mpr (by simp [found, specified]))

/-- A code that names no type is a fault, told by its name. -/
theorem WireType.Place.fault?_unknown {name : Text}
    (unknown : TypeCode.ofName? name = none ∨ TypeCode.ofName? name = some .unspecified) :
    (Place.code name).fault? = some (.unknownTypeCode name) := by
  refine if_neg fun supported => ?_
  obtain ⟨known, specified⟩ := TypeCode.mem_supportedCodes_iff.mp supported
  exact unknown.elim known specified

namespace SqlType

open WireType

mutual

/-- Decoding rests on the places of a wire type and keeps all that counts of it. -/
theorem ofWire_restsOn : (wire : WireType) →
    RestsOn Place.fault? wire.places (fun type => type.wire = wire.pruned) (ofWire wire)
  | .node code element fields => by
      rw [ofWire.eq_def]
      cases found : TypeCode.ofName? code with
      | none =>
          simp only [found, places]
          exact .error (Place.fault?_unknown (.inl found))
      | some known =>
          have same := TypeCode.eq_name_of_ofName? found
          rcases known with _ | kind | _ | _
          · simp only [found, places]
            exact .error (Place.fault?_unknown (.inr found))
          · -- The code of a scalar type: whatever is said of elements and fields does not count.
            obtain rfl : code = kind.name := same
            have noArray : kind.name ≠ "ARRAY".toList := by cases kind <;> decide
            have noStruct : kind.name ≠ "STRUCT".toList := by cases kind <;> decide
            simp only [found, places, pruned, if_neg noArray, if_neg noStruct]
            exact .cons (Place.fault?_known found nofun) (.ok rfl)
          · obtain rfl : code = "ARRAY".toList := same
            simp only [found, places, pruned, if_true]
            refine .cons (Place.fault?_known found nofun) ?_
            cases element with
            | none => exact .ok rfl
            | some element =>
                refine (ofWire_restsOn element).map fun type same => ?_
                rw [wire, same, prunedElement]
          · obtain rfl : code = "STRUCT".toList := same
            have noArray : "STRUCT".toList ≠ "ARRAY".toList := by decide
            simp only [found, places, pruned, if_neg noArray, if_true]
            refine .cons (Place.fault?_known found nofun) ?_
            cases fields with
            | none => exact .ok rfl
            | some fields =>
                refine (ofWireFields_restsOn 0 fields).map fun types same => ?_
                rw [wire, same, prunedStruct]

/-- Checking fields rests on their places in order. -/
theorem ofWireFields_restsOn (index : Nat) : (fields : List (WireField WireType)) →
    RestsOn Place.fault? (fieldPlaces index fields) (fun types => wireFields types = prunedFields fields)
      (ofWireFields index fields)
  | [] => .ok rfl
  | ⟨name, none⟩ :: rest => .error (by simp [Place.fault?, TypeGap.label])
  | ⟨name, some type⟩ :: rest => by
      rw [ofWireFields, fieldPlaces, prunedFields]
      refine (ofWire_restsOn type).bind fun first same =>
        (ofWireFields_restsOn (index + 1) rest).bind_ok fun others sames => ?_
      rw [wireFields, same, sames]

end

/-- A wire type is decoded exactly when all its codes are supported and all its fields have types, as far
as they count; the error is that of the first place where this fails. A type is what the wire type that it
is written as describes, and it comes from every wire type that differs from this one in parts that do not
count. -/
theorem ofWire_accepts (wire : WireType) (type : SqlType) :
    ((∃ error, ofWire wire = .error error) ↔ ∃ place ∈ wire.places, place.fault? ≠ none) ∧
    (∀ error, ofWire wire = .error error ↔
      ∃ before place after, wire.places = before ++ place :: after ∧ place.fault? = some error ∧
        ∀ earlier ∈ before, earlier.fault? = none) ∧
    (ofWire wire = .ok type ↔
      (∀ place ∈ wire.places, place.fault? = none) ∧ type.wire = wire.pruned) ∧
    ofWire type.wire = .ok type := by
  have rests := ofWire_restsOn wire
  have inverse := ofWire_wire
  have decoded : ofWire wire = .ok type ↔
      (∀ place ∈ wire.places, place.fault? = none) ∧ type.wire = wire.pruned := by
    constructor
    · intro succeeds
      exact ⟨rests.succeeds_iff.mp ⟨type, succeeds⟩, rests.holds succeeds⟩
    · rintro ⟨sound, same⟩
      obtain ⟨other, succeeds⟩ := rests.succeeds_iff.mpr sound
      have otherSame : ofWire other.wire = .ok type := by
        rw [rests.holds succeeds, ← same, inverse]
      rw [succeeds, ← inverse other, otherSame]
  refine ⟨?_, fun error => rests.fails_iff, decoded, inverse type⟩
  have fails_iff : (∃ error, ofWire wire = .error error) ↔ ¬ ∃ value, ofWire wire = .ok value := by
    cases ofWire wire <;> simp
  rw [fails_iff, rests.succeeds_iff]
  push Not
  rfl

/-- What stands under a scalar code does not count, a field without type and name goes by its index, and an
array of structs without fields is left of a wire type that says more. -/
theorem ofWire_accepts_indexedField :
    ofWire (.node "STRUCT".toList none (some
        [⟨"x".toList, some (.node "INT64".toList (some (.node "INT63".toList none none)) none)⟩,
          ⟨[], none⟩, ⟨"y".toList, some (.node "INT63".toList none none)⟩])) =
      .error (.missingElementType (.wireField "1".toList)) ∧
    ofWire (.node "ARRAY".toList (some (.node "STRUCT".toList none none)) (some [⟨"x".toList, none⟩])) =
      .ok (.array (some (.struct []))) := by
  refine ⟨((ofWire_accepts _ (.struct [])).2.1 _).mpr ?_, (ofWire_accepts _ _).2.2.1.mpr ?_⟩
  · exact ⟨[.code "STRUCT".toList, .code "INT64".toList], .untypedField [] 1, [.code "INT63".toList],
      rfl, rfl, by decide⟩
  · exact ⟨by decide, rfl⟩

end SqlType

end ParamCodec
