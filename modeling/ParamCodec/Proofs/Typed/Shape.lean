import Mathlib.Data.List.Forall2
import Mathlib.Tactic
import ParamCodec.Typed.Value

namespace ParamCodec.SqlType

/-- What holds of a type when it holds of its element type and of the types of its fields. -/
@[elab_as_elim]
theorem induction {motive : SqlType → Prop} (scalar : ∀ kind, motive (.scalar kind))
    (untyped : motive (.array none))
    (array : ∀ element, motive element → motive (.array (some element)))
    (struct : ∀ fields, (∀ field ∈ fields, motive field.type) → motive (.struct fields))
    (type : SqlType) : motive type := by
  refine @SqlType.rec motive (fun element => motive (.array element))
    (fun fields => ∀ field ∈ fields, motive field.type) (fun field => motive field.type)
    scalar (fun _ whole => whole) struct untyped array (by simp) ?_ (fun _ _ whole => whole) type
  intro field fields first rest
  exact List.forall_mem_cons.mpr ⟨first, rest⟩

mutual

/-- Names and scalar kinds aside, a type has the shape that another one expects. An array without
element type has the shape of every array. -/
def fits : SqlType → SqlType → Bool
  | scalar _, scalar _ => true
  | array none, array _ => true
  | array (some actual), array (some expected) => actual.fits expected
  | struct actual, struct expected => fieldsFit actual expected
  | _, _ => false

/-- As many fields, which fit in pairs. -/
def fieldsFit : List (Field SqlType) → List (Field SqlType) → Bool
  | [], [] => true
  | ⟨_, actual⟩ :: fields, ⟨_, expected⟩ :: others => actual.fits expected && fieldsFit fields others
  | _, _ => false

end

/-- Items fit fields when there are as many and each fits the type of its field. -/
theorem areCongruent_iff {fields : List (Field SqlType)} {items : List Value} :
    areCongruent fields items = true ↔
      List.Forall₂ (fun field item => field.type.isCongruent item = true) fields items := by
  induction fields generalizing items with
  | nil => cases items <;> simp [areCongruent]
  | cons field fields ih => cases items <;> simp [areCongruent, ih]

/-- Fields fit others when there are as many and their types fit in order; names do not count. -/
theorem fieldsFit_iff {actual expected : List (Field SqlType)} :
    fieldsFit actual expected = true ↔
      List.Forall₂ (fun field other => field.type.fits other.type = true) actual expected := by
  induction actual generalizing expected with
  | nil => cases expected <;> simp [fieldsFit]
  | cons field fields ih => cases expected <;> simp [fieldsFit, ih]

/-- Everything but a list is a scalar payload. -/
theorem isCongruent_scalar_iff {kind : ScalarKind} {value : Value} :
    (scalar kind).isCongruent value = true ↔ value.list? = none := by
  cases value <;> simp [isCongruent, Value.list?]

/-- Null is a payload of every array, and a list is one when all its items are payloads of the element
type; without an element type it has none. -/
theorem isCongruent_array_iff {element : Option SqlType} {value : Value} :
    (array element).isCongruent value = true ↔
      value = .null ∨ ∃ items, value = .list items ∧
        ∀ item ∈ items, ∃ type ∈ element, type.isCongruent item = true := by
  cases value <;> cases element <;> simp [isCongruent, List.eq_nil_iff_forall_not_mem]

/-- A payload fits a struct when it is a list whose items fit the fields. -/
theorem isCongruent_struct_iff {fields : List (Field SqlType)} {value : Value} :
    (struct fields).isCongruent value = true ↔
      ∃ items, value = .list items ∧
        List.Forall₂ (fun field item => field.type.isCongruent item = true) fields items := by
  cases value <;> simp [isCongruent, areCongruent_iff]

/-- A scalar type fits scalar types only. -/
theorem fits_scalar_inv {kind : ScalarKind} {expected : SqlType}
    (fit : (scalar kind).fits expected = true) : ∃ other, expected = scalar other := by
  cases expected <;> simp_all [fits]

/-- An array type fits array types only, with an element type that fits theirs. -/
theorem fits_array_inv {actual : Option SqlType} {expected : SqlType}
    (fit : (array actual).fits expected = true) :
    ∃ other, expected = array other ∧
      ∀ type ∈ actual, ∃ wanted ∈ other, type.fits wanted = true := by
  match actual, expected with
  | _, scalar _ => simp [fits] at fit
  | _, struct _ => simp [fits] at fit
  | none, array other => exact ⟨other, rfl, by simp⟩
  | some _, array none => simp [fits] at fit
  | some type, array (some wanted) => exact ⟨some wanted, rfl, by simpa [fits] using fit⟩

/-- A struct type fits struct types only, with fields that fit theirs in order. -/
theorem fits_struct_inv {actual : List (Field SqlType)} {expected : SqlType}
    (fit : (struct actual).fits expected = true) :
    ∃ others, expected = struct others ∧
      List.Forall₂ (fun field other => field.type.fits other.type = true) actual others := by
  cases expected with
  | scalar _ => simp [fits] at fit
  | array _ => simp [fits] at fit
  | struct others => exact ⟨others, rfl, fieldsFit_iff.mp (by simpa [fits] using fit)⟩

/-- The items of an array are still payloads when a payload of its element type is one of the other. -/
theorem isCongruent_array_of_forall {actual expected : Option SqlType} {value : Value}
    (keeps : ∀ type ∈ actual, ∃ wanted ∈ expected,
      ∀ item, type.isCongruent item = true → wanted.isCongruent item = true)
    (congruent : (array actual).isCongruent value = true) :
    (array expected).isCongruent value = true := by
  rcases isCongruent_array_iff.mp congruent with rfl | ⟨items, rfl, shaped⟩
  · exact isCongruent_array_iff.mpr (.inl rfl)
  · refine isCongruent_array_iff.mpr (.inr ⟨items, rfl, fun item member => ?_⟩)
    obtain ⟨type, known, itemShaped⟩ := shaped item member
    obtain ⟨wanted, found, keep⟩ := keeps type known
    exact ⟨wanted, found, keep item itemShaped⟩

/-- The values of a struct are still payloads when those of its fields are ones of the other fields. -/
theorem isCongruent_struct_of_forall {actual expected : List (Field SqlType)} {value : Value}
    (keeps : List.Forall₂ (fun field other => ∀ item, field.type.isCongruent item = true →
      other.type.isCongruent item = true) actual expected)
    (congruent : (struct actual).isCongruent value = true) :
    (struct expected).isCongruent value = true := by
  obtain ⟨items, rfl, shaped⟩ := isCongruent_struct_iff.mp congruent
  refine isCongruent_struct_iff.mpr ⟨items, rfl, ?_⟩
  clear congruent
  induction keeps generalizing items with
  | nil => cases shaped; exact .nil
  | cons keep _ ih =>
      cases shaped with
      | cons first rest => exact .cons (keep _ first) (ih _ rest)

/-- A payload of a type is a payload of every type that the type fits. -/
theorem isCongruent_of_fits {actual expected : SqlType} {value : Value}
    (fit : actual.fits expected = true) (congruent : actual.isCongruent value = true) :
    expected.isCongruent value = true := by
  induction actual using induction generalizing expected value with
  | scalar kind =>
      obtain ⟨other, rfl⟩ := fits_scalar_inv fit
      exact isCongruent_scalar_iff.mpr (isCongruent_scalar_iff.mp congruent)
  | untyped =>
      obtain ⟨other, rfl, _⟩ := fits_array_inv fit
      exact isCongruent_array_of_forall (by simp) congruent
  | array element ih =>
      obtain ⟨other, rfl, inside⟩ := fits_array_inv fit
      refine isCongruent_array_of_forall (fun type known => ?_) congruent
      obtain ⟨wanted, found, elementFits⟩ := inside type known
      cases known
      exact ⟨wanted, found, fun item => ih elementFits⟩
  | struct fields ih =>
      obtain ⟨others, rfl, inside⟩ := fits_struct_inv fit
      refine isCongruent_struct_of_forall ?_ congruent
      have pairs := (List.forall₂_and_left fields others).mpr ⟨ih, inside⟩
      exact pairs.imp fun field other pair item => pair.1 pair.2

end ParamCodec.SqlType
