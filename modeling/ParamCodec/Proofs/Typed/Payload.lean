import Mathlib.Tactic
import ParamCodec.Proofs.Json.Writer
import ParamCodec.Typed.Payload

namespace ParamCodec

namespace Json

/-- The items of an array are sorted one by one. -/
theorem sortedItems_eq_map (items : List Json) : sortedItems items = items.map sorted := by
  induction items with
  | nil => rfl
  | cons item items ih => rw [sortedItems, ih, List.map_cons]

end Json

namespace Value

/-- What holds of a payload when it holds of its items. -/
@[elab_as_elim]
theorem induction {motive : Value → Prop} (null : motive .null) (bool : ∀ value, motive (.bool value))
    (number : ∀ value, motive (.number value)) (string : ∀ text, motive (.string text))
    (list : ∀ items, (∀ item ∈ items, motive item) → motive (.list items)) (value : Value) :
    motive value := by
  refine @Value.rec motive (fun items => ∀ item ∈ items, motive item) null bool number string list
    (by simp) ?_ value
  intro item items first rest
  exact List.forall_mem_cons.mpr ⟨first, rest⟩

mutual

/-- The numbers of a payload at any depth. -/
def numbers : Value → List Binary64
  | number value => [value]
  | list items => numbersOfItems items
  | _ => []

def numbersOfItems : List Value → List Binary64
  | [] => []
  | item :: items => item.numbers ++ numbersOfItems items

end

/-- The numbers of a list are those of its items. -/
theorem mem_numbers_list {items : List Value} {number : Binary64} :
    number ∈ (list items).numbers ↔ ∃ item ∈ items, number ∈ item.numbers := by
  rw [numbers]
  induction items with
  | nil => simp [numbersOfItems]
  | cons item items ih => simp [numbersOfItems, ih]

/-- All numbers of the payload are finite. -/
def IsFinite (value : Value) : Prop := ∀ number ∈ value.numbers, number.isFinite = true

/-- A number is finite as a payload when it is finite itself. -/
theorem isFinite_number_iff {value : Binary64} :
    (number value).IsFinite ↔ value.isFinite = true := by
  simp [IsFinite, numbers]

/-- A list is finite when its items are. -/
theorem isFinite_list_iff {items : List Value} :
    (list items).IsFinite ↔ ∀ item ∈ items, item.IsFinite := by
  constructor
  · intro finite item member number within
    exact finite number (mem_numbers_list.mpr ⟨item, member, within⟩)
  · intro finite number within
    obtain ⟨item, member, within⟩ := mem_numbers_list.mp within
    exact finite item member number within

/-- The items of a list become JSON one by one. -/
theorem jsonItems_eq_map (items : List Value) : jsonItems items = items.map json := by
  induction items with
  | nil => rfl
  | cons item items ih => rw [jsonItems, ih, List.map_cons]

@[simp] theorem text_null : null.text = "null".toList := rfl

@[simp] theorem text_bool (value : Bool) :
    (bool value).text = (if value then "true" else "false").toList := rfl

@[simp] theorem text_string (text : Text) : (string text).text = Json.stringText text := rfl

/-- A number is written as its JSON numeral, which is null where it is not finite. -/
@[simp] theorem text_number (value : Binary64) : (number value).text = Json.numberText value := by
  rw [text, json]
  split_ifs with finite
  · rfl
  · exact (Json.numberText_notFinite finite).symm

/-- A list is the texts of its items between commas and square brackets. -/
theorem text_list (items : List Value) :
    (list items).text = '[' :: List.intercalate [','] (items.map text) ++ [']'] := by
  rw [text, json, jsonItems_eq_map, Json.compact_array, List.map_map]
  rfl

/-- The JSON of a payload has no members to put in order. -/
theorem sorted_json (value : Value) : value.json.sorted = value.json := by
  induction value using Value.induction with
  | null => rfl
  | bool value => rfl
  | number value =>
      rw [json]
      split <;> rfl
  | string text => rfl
  | list items ih =>
      rw [json, Json.sorted, jsonItems_eq_map, Json.sortedItems_eq_map, List.map_map]
      exact congrArg Json.array (List.map_congr_left ih)

/-- Items are read back one by one. -/
theorem ofJsonItems?_map {items : List Value}
    (each : ∀ item ∈ items, ofJson? item.json = some item) :
    ofJsonItems? (items.map json) = some items := by
  induction items with
  | nil => rfl
  | cons item items ih =>
      rw [List.forall_mem_cons] at each
      rw [List.map_cons, ofJsonItems?, each.1, ih each.2]

/-- A payload is read back from its JSON when all its numbers are finite. -/
theorem ofJson?_json {value : Value} (finite : value.IsFinite) : ofJson? value.json = some value := by
  induction value using Value.induction with
  | null => rfl
  | bool value => rfl
  | number value => rw [json, if_pos (isFinite_number_iff.mp finite), ofJson?]
  | string text => rfl
  | list items ih =>
      have each : ∀ item ∈ items, ofJson? item.json = some item := fun item member =>
        ih item member (isFinite_list_iff.mp finite item member)
      rw [json, jsonItems_eq_map, ofJson?, ofJsonItems?_map each]
      rfl

end Value

end ParamCodec
