import ParamCodec.Display.Cell
import ParamCodec.Proofs.FirstFault
import ParamCodec.Proofs.Typed.Shape

namespace ParamCodec.Display

/-- A payload of a scalar type inside a payload of any type. -/
structure Leaf where
  kind : ScalarKind
  payload : Value

mutual

/-- The scalar payloads other than null from left to right. -/
def leaves : SqlType → Value → List Leaf
  | .scalar kind, payload => if payload.isNull then [] else [⟨kind, payload⟩]
  | .array (some element), .list items => items.flatMap fun item => leaves element item
  | .struct fields, .list items => fieldLeaves fields items
  | _, _ => []

def fieldLeaves : List (Field SqlType) → List Value → List Leaf
  | ⟨_, type⟩ :: fields, item :: items => leaves type item ++ fieldLeaves fields items
  | _, _ => []

end

mutual

/-- The text of a payload has a part for each item of an array and a part for each field of a struct,
with the name of the field behind it; a payload without parts is shown as its kind has it. -/
inductive Shows : SqlType → Value → Text → Prop
  | null {kind : ScalarKind} : Shows (.scalar kind) .null nullText
  | leaf {kind : ScalarKind} {payload : Value} {text : Text} (stands : payload.isNull = false)
      (shown : scalar? kind payload = some text) : Shows (.scalar kind) payload text
  | nullArray {element : Option SqlType} : Shows (.array element) .null nullText
  | untyped : Shows (.array none) (.list []) (bracketed [])
  | array {element : SqlType} {items : List Value} {parts : List Text}
      (each : ShowsItems element items parts) :
      Shows (.array (some element)) (.list items) (bracketed parts)
  | struct {fields : List (Field SqlType)} {items : List Value} {parts : List Text}
      (each : ShowsFields fields items parts) : Shows (.struct fields) (.list items) (parenthesized parts)

inductive ShowsItems : SqlType → List Value → List Text → Prop
  | nil {element : SqlType} : ShowsItems element [] []
  | cons {element : SqlType} {item : Value} {items : List Value} {part : Text} {parts : List Text}
      (first : Shows element item part) (rest : ShowsItems element items parts) :
      ShowsItems element (item :: items) (part :: parts)

inductive ShowsFields : List (Field SqlType) → List Value → List Text → Prop
  | nil : ShowsFields [] [] []
  | cons {name part : Text} {type : SqlType} {item : Value} {fields : List (Field SqlType)}
      {items : List Value} {parts : List Text} (first : Shows type item part)
      (rest : ShowsFields fields items parts) :
      ShowsFields (⟨name, type⟩ :: fields) (item :: items) (partText name part :: parts)

end

mutual

/-- What shows a payload is its text. -/
theorem value_of_shows : {type : SqlType} → {payload : Value} → {text : Text} →
    Shows type payload text → value type payload = .ok text
  | _, _, _, .null => rfl
  | _, _, _, .leaf stands shown => by
      rw [value, scalar, stands, shown]
      rfl
  | _, _, _, .nullArray => by rw [value]
  | _, _, _, .untyped => rfl
  | _, _, _, .array each => by
      rw [value, mapM_of_shows each]
      rfl
  | _, _, _, .struct each => by
      rw [value, Value.list?, Option.getD_some, structParts_of_shows each]
      rfl

/-- Items that are shown one by one are shown together. -/
theorem mapM_of_shows : {element : SqlType} → {items : List Value} → {parts : List Text} →
    ShowsItems element items parts → (items.mapM fun item => value element item) = .ok parts
  | _, _, _, .nil => rfl
  | _, _, _, .cons first rest => by
      rw [List.mapM_cons, value_of_shows first, mapM_of_shows rest]
      rfl

/-- Fields that are shown one by one are shown together. -/
theorem structParts_of_shows : {fields : List (Field SqlType)} → {items : List Value} →
    {parts : List Text} → ShowsFields fields items parts → structParts fields items = .ok parts
  | _, _, _, .nil => rfl
  | _, _, _, .cons first rest => by
      rw [structParts, value_of_shows first, structParts_of_shows rest]
      rfl

end

namespace Leaf

/-- The error of a leaf that is not shown. -/
def fault? (leaf : Leaf) : Option Error :=
  match value (.scalar leaf.kind) leaf.payload with
  | .ok _ => none
  | .error error => some error

/-- A leaf has no fault exactly when it has a text. -/
theorem fault?_eq_none_iff {leaf : Leaf} :
    leaf.fault? = none ↔ ∃ text, value (.scalar leaf.kind) leaf.payload = .ok text := by
  unfold fault?
  cases value (.scalar leaf.kind) leaf.payload <;> simp

/-- The fault of a leaf is the error of its display. -/
theorem fault?_eq_some_iff {leaf : Leaf} {error : Error} :
    leaf.fault? = some error ↔ value (.scalar leaf.kind) leaf.payload = .error error := by
  unfold fault?
  cases value (.scalar leaf.kind) leaf.payload <;> simp

/-- A leaf is not shown only for not having its kind. -/
theorem eq_mismatch {leaf : Leaf} {error : Error}
    (fails : value (.scalar leaf.kind) leaf.payload = .error error) :
    error = .mismatch (.scalar leaf.kind) leaf.payload := by
  rw [value, scalar] at fails
  split at fails
  · cases fails
  · split at fails
    · cases fails
    · exact (Except.error.inj fails).symm

end Leaf

/-- The payload has a text that shows it unless a leaf has none; the leftmost such leaf counts. -/
def RestsOnLeaves (type : SqlType) (payload : Value) : Prop :=
  RestsOn Leaf.fault? (leaves type payload) (Shows type payload) (value type payload)

/-- A payload of a scalar type rests on itself. -/
theorem scalar_restsOn (kind : ScalarKind) (payload : Value) : RestsOnLeaves (.scalar kind) payload := by
  rw [RestsOnLeaves, leaves]
  split
  · next null =>
    obtain rfl : payload = .null := by
      cases payload with
      | null => rfl
      | _ => cases null
    exact .ok .null
  · next stands =>
    have present : payload.isNull = false := Bool.eq_false_iff.mpr stands
    cases shown : scalar? kind payload with
    | some text =>
        have shows : Shows (.scalar kind) payload text := .leaf present shown
        have sound : Leaf.fault? ⟨kind, payload⟩ = none :=
          Leaf.fault?_eq_none_iff.mpr ⟨text, value_of_shows shows⟩
        rw [value_of_shows shows]
        exact .cons sound (.ok shows)
    | none =>
        have fails : value (.scalar kind) payload = .error (.mismatch (.scalar kind) payload) := by
          simp [value, scalar, present, shown]
        rw [fails]
        exact .error (Leaf.fault?_eq_some_iff.mpr fails)

/-- The texts of items rest on the leaves of all items in order. -/
theorem items_restsOn {element : SqlType} {items : List Value}
    (each : ∀ item ∈ items, RestsOnLeaves element item) :
    RestsOn Leaf.fault? (items.flatMap fun item => leaves element item) (ShowsItems element items)
      (items.mapM fun item => value element item) := by
  induction items with
  | nil => exact .ok .nil
  | cons item items ih =>
      rw [List.forall_mem_cons] at each
      rw [List.flatMap_cons, List.mapM_cons]
      exact each.1.bind fun _ first => (ih each.2).bind_ok fun _ rest => .cons first rest

/-- The texts of fields rest on the leaves of all fields in order. -/
theorem fields_restsOn {fields : List (Field SqlType)} {items : List Value}
    (each : List.Forall₂ (fun field item => RestsOnLeaves field.type item) fields items) :
    RestsOn Leaf.fault? (fieldLeaves fields items) (ShowsFields fields items)
      (structParts fields items) := by
  induction each with
  | nil => exact .ok .nil
  | cons first _ ih => exact first.bind fun _ shows => ih.bind_ok fun _ rest => .cons shows rest

/-- Every part of a payload of the right shape is looked at. -/
theorem value_restsOn {type : SqlType} {payload : Value} (congruent : type.isCongruent payload = true) :
    RestsOnLeaves type payload := by
  induction type using SqlType.induction generalizing payload with
  | scalar kind => exact scalar_restsOn kind payload
  | untyped =>
      rcases SqlType.isCongruent_array_iff.mp congruent with rfl | ⟨items, rfl, shaped⟩
      · exact .ok .nullArray
      · obtain rfl : items = [] := List.eq_nil_iff_forall_not_mem.mpr fun item member => by
          obtain ⟨_, typed, _⟩ := shaped item member
          cases typed
        exact .ok .untyped
  | array element ih =>
      rcases SqlType.isCongruent_array_iff.mp congruent with rfl | ⟨items, rfl, shaped⟩
      · exact .ok .nullArray
      · have each : ∀ item ∈ items, RestsOnLeaves element item := by
          intro item member
          obtain ⟨_, known, fits⟩ := shaped item member
          cases known
          exact ih fits
        rw [RestsOnLeaves, leaves, value]
        exact (items_restsOn each).map fun _ parts => .array parts
  | struct fields ih =>
      obtain ⟨items, rfl, shaped⟩ := SqlType.isCongruent_struct_iff.mp congruent
      -- There are as many items as fields, so the pairing of them leaves out none.
      have both := (List.forall₂_and_left fields items).mpr ⟨ih, shaped⟩
      rw [RestsOnLeaves, leaves, value, Value.list?, Option.getD_some]
      exact (fields_restsOn (both.imp fun _ _ ⟨rests, fits⟩ => rests fits)).map fun _ parts => .struct parts

/-- A payload of the shape of its type is shown with all its parts, unless a scalar inside it is not shown
on its own; then the error names the leftmost such scalar with its kind. -/
theorem value_of_congruent (type : SqlType) (payload : Value)
    (congruent : type.isCongruent payload = true) :
    ((∃ text, value type payload = .ok text) ↔
      ∀ leaf ∈ leaves type payload, ∃ text, value (.scalar leaf.kind) leaf.payload = .ok text) ∧
    (∀ text, value type payload = .ok text ↔ Shows type payload text) ∧
    ∀ error, value type payload = .error error ↔
      ∃ before leaf after, leaves type payload = before ++ leaf :: after ∧
        value (.scalar leaf.kind) leaf.payload = .error error ∧
        (∀ earlier ∈ before, ∃ text, value (.scalar earlier.kind) earlier.payload = .ok text) ∧
        error = .mismatch (.scalar leaf.kind) leaf.payload ∧
        error.message = ("failed to decode ".toList : Text) ++ leaf.payload.text ++
          (" as ".toList : Text) ++ leaf.kind.name := by
  have rests := value_restsOn congruent
  refine ⟨?_, fun text => ⟨rests.holds, value_of_shows⟩, fun error => ?_⟩
  · simpa only [Leaf.fault?_eq_none_iff] using rests.succeeds_iff
  · rw [rests.fails_iff]
    simp only [Leaf.fault?_eq_none_iff, Leaf.fault?_eq_some_iff]
    constructor
    · rintro ⟨before, leaf, after, split, fails, shown⟩
      obtain rfl := Leaf.eq_mismatch fails
      exact ⟨before, leaf, after, split, fails, shown, rfl, rfl⟩
    · rintro ⟨before, leaf, after, split, fails, shown, _⟩
      exact ⟨before, leaf, after, split, fails, shown⟩

/-- A null in an array has its part, and of two scalars of a wrong kind the left one is named. -/
theorem value_of_congruent_leftmost :
    value (.struct [⟨"d".toList, .array (some (.scalar .int64))⟩, ⟨[], .scalar .bool⟩])
        (.list [.list [.null, .string "07".toList], .bool true]) =
      .ok "([<null>, 7] AS d, true)".toList ∧
    value (.struct [⟨"d".toList, .array (some (.scalar .int64))⟩, ⟨[], .scalar .bool⟩])
        (.list [.list [.null, .string "7".toList, .string "x".toList], .string "true".toList]) =
      .error (.mismatch (.scalar .int64) (.string "x".toList)) := by
  refine ⟨((value_of_congruent _ _ rfl).2.1 _).mpr ?_, ((value_of_congruent _ _ rfl).2.2 _).mpr ?_⟩
  · have seven : Shows (.scalar .int64) (.string "07".toList) "7".toList := .leaf rfl (by decide +kernel)
    have yes : Shows (.scalar .bool) (.bool true) "true".toList := .leaf rfl rfl
    exact .struct (.cons (.array (.cons .null (.cons seven .nil))) (.cons yes .nil))
  · exact ⟨[⟨.int64, .string "7".toList⟩], ⟨.int64, .string "x".toList⟩, [⟨.bool, .string "true".toList⟩],
      rfl, rfl, by simpa using ⟨"7".toList, rfl⟩, rfl, rfl⟩

end ParamCodec.Display
