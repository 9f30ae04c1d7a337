import ParamCodec.Proofs.Typed.Payload
import ParamCodec.Proofs.Typed.Shape
import ParamCodec.Typed.Wire

namespace ParamCodec

namespace WireType

/-- The JSON of a field whose type has the tree. -/
def fieldTree (name : Text) (type : Json) : Json :=
  .object (nameMembers name ++ [("type".toList, type)])

/-- The members of a field are in key order as they stand. -/
theorem sorted_fieldTree (name : Text) (type : Json) :
    (fieldTree name type).sorted = fieldTree name type.sorted := by
  unfold fieldTree nameMembers
  split <;> rfl

/-- A field is read back from its tree when its type is. -/
theorem fieldOf?_fieldTree (name : Text) {tree : Json} {wire : WireType}
    (read : optional? tree = some (some wire)) :
    fieldOf? (fieldTree name tree) = some ⟨name, some wire⟩ := by
  have typed : fieldPartsOf? [("type".toList, tree)] = some ⟨[], some wire⟩ := by
    rw [fieldPartsOf?, fieldPartsOf?, read]
    rfl
  unfold fieldTree nameMembers fieldOf?
  split
  · next empty =>
    rw [List.isEmpty_iff.mp empty]
    exact typed
  · rw [List.singleton_append, fieldPartsOf?, typed]
    rfl

/-- The text of a field: its name, unless that is empty, and then its type. -/
def fieldLine (name type : Text) : Text :=
  '\x7b' :: (if name.isEmpty then [] else "\x22name\x22:".toList ++ Json.stringText name ++ [',']) ++
    "\x22type\x22:".toList ++ type ++ ['\x7d']

/-- The tree of a field is written as the text of the field. -/
theorem compact_fieldTree (name : Text) (type : Json) :
    (fieldTree name type).compact = fieldLine name type.compact := by
  have typed : Json.memberText ("type".toList, type) = "\x22type\x22:".toList ++ type.compact := rfl
  have key : Json.stringText "name".toList = "\x22name\x22".toList := by decide
  unfold fieldTree nameMembers fieldLine
  split
  · rw [List.nil_append, Json.compact_object_one, typed]
    rfl
  · rw [List.singleton_append, Json.compact_object_two, Json.memberText_string, typed, key]
    simp

section Parts

variable {rest : List (Text × Json)} {code : Option Text} {element : Option WireType}
  {fields : Option (List (WireField WireType))}

/-- The code of a wire type is the value of its member. -/
theorem partsOf?_code (name : Text) (others : partsOf? rest = some ⟨code, element, fields⟩) :
    partsOf? (("code".toList, .string name) :: rest) = some ⟨some name, element, fields⟩ := by
  rw [partsOf?, others]
  rfl

/-- The element type of a wire type is read from the value of its member. -/
theorem partsOf?_element {tree : Json} {inner : WireType}
    (others : partsOf? rest = some ⟨code, element, fields⟩)
    (read : optional? tree = some (some inner)) :
    partsOf? (("arrayElementType".toList, tree) :: rest) = some ⟨code, some inner, fields⟩ := by
  rw [partsOf?, others]
  dsimp only
  rw [if_neg (by decide), if_pos rfl, read]
  rfl

/-- The fields of a wire type are read from the list inside its member. -/
theorem partsOf?_fields {items : List Json} {inner : List (WireField WireType)}
    (others : partsOf? rest = some ⟨code, element, fields⟩)
    (read : fieldsOf? items = some inner) :
    partsOf? (("structType".toList, .object [("fields".toList, .array items)]) :: rest) =
      some ⟨code, element, some inner⟩ := by
  have struct : structOf? (.object [("fields".toList, .array items)]) = some (some inner) := by
    rw [structOf?, fieldListOf?, if_pos rfl, read]
    rfl
  rw [partsOf?, others]
  dsimp only
  rw [if_neg (by decide), if_neg (by decide), if_pos rfl, struct]
  rfl

/-- An object that names a code is a wire type. -/
theorem optional?_object {members : List (Text × Json)} {name : Text}
    (named : partsOf? members = some ⟨some name, element, fields⟩) :
    optional? (.object members) = some (some (.node name element fields)) := by
  rw [optional?, named]
  rfl

end Parts

theorem partsOf?_nil : partsOf? [] = some ⟨none, none, none⟩ := by rw [partsOf?]

end WireType

namespace SqlType

open WireType

/-- The JSON of the fields of a struct. -/
theorem fieldsJson_wireFields (fields : List (Field SqlType)) :
    fieldsJson (wireFields fields) =
      fields.map fun field => fieldTree field.name field.type.json := by
  induction fields with
  | nil => rfl
  | cons field fields ih =>
      rw [wireFields, fieldsJson, ih, List.map_cons]
      rfl

theorem json_scalar (kind : ScalarKind) :
    (scalar kind).json = .object [("code".toList, .string kind.name)] :=
  rfl

theorem json_untyped : (array none).json = .object [("code".toList, .string "ARRAY".toList)] :=
  rfl

theorem json_array (element : SqlType) :
    (array (some element)).json = .object [("code".toList, .string "ARRAY".toList),
      ("arrayElementType".toList, element.json)] :=
  rfl

/-- The JSON of a struct has its code and the trees of its fields. -/
theorem json_struct (fields : List (Field SqlType)) :
    (struct fields).json = .object [("code".toList, .string "STRUCT".toList),
      ("structType".toList, .object [("fields".toList,
        .array (fields.map fun field => fieldTree field.name field.type.json))])] := by
  rw [← fieldsJson_wireFields]
  rfl

/-- The names of the codes have nothing in them to escape. -/
theorem stringText_name (kind : ScalarKind) :
    Json.stringText kind.name = '\x22' :: kind.name ++ ['\x22'] := by
  have plain : (kind.name.all fun letter =>
      32 ≤ letter.toNat ∧ letter ≠ '\x22' ∧ letter ≠ '\x5c') = true := by
    cases kind <;> decide
  exact Json.stringText_plain fun letter member =>
    of_decide_eq_true (List.all_eq_true.mp plain letter member)

/-- A scalar type is written as its code. -/
theorem compact_json_scalar (kind : ScalarKind) :
    (scalar kind).json.compact =
      "\x7b\x22code\x22:\x22".toList ++ kind.name ++ "\x22\x7d".toList := by
  have key : Json.stringText "code".toList = "\x22code\x22".toList := by decide
  rw [json_scalar, Json.compact_object_one, Json.memberText_string, key, stringText_name]
  simp

/-- An array whose elements have no type is written as its code. -/
theorem compact_json_untyped :
    (array none).json.compact = "\x7b\x22code\x22:\x22ARRAY\x22\x7d".toList := by
  decide

/-- Behind the code of an array stands the type of its elements. -/
theorem compact_json_array (element : SqlType) :
    (array (some element)).json.compact =
      "\x7b\x22code\x22:\x22ARRAY\x22,\x22arrayElementType\x22:".toList ++ element.json.compact ++
        ['\x7d'] := by
  have code : Json.memberText ("code".toList, .string "ARRAY".toList) =
      "\x22code\x22:\x22ARRAY\x22".toList := by decide
  have key : Json.stringText "arrayElementType".toList = "\x22arrayElementType\x22".toList := by decide
  rw [json_array, Json.compact_object_two, code, Json.memberText, key]
  simp

/-- Behind the code of a struct stand its fields in order. -/
theorem compact_json_struct (fields : List (Field SqlType)) :
    (struct fields).json.compact =
      "\x7b\x22code\x22:\x22STRUCT\x22,\x22structType\x22:\x7b\x22fields\x22:[".toList ++
        List.intercalate [','] (fields.map fun field =>
          fieldLine field.name field.type.json.compact) ++ "]\x7d\x7d".toList := by
  have code : Json.memberText ("code".toList, .string "STRUCT".toList) =
      "\x22code\x22:\x22STRUCT\x22".toList := by decide
  have outer : Json.stringText "structType".toList = "\x22structType\x22".toList := by decide
  have inner : Json.stringText "fields".toList = "\x22fields\x22".toList := by decide
  have texts : (fields.map fun field => fieldTree field.name field.type.json).map Json.compact =
      fields.map fun field => fieldLine field.name field.type.json.compact := by
    rw [List.map_map]
    exact List.map_congr_left fun field _ => compact_fieldTree field.name field.type.json
  rw [json_struct, Json.compact_object_two, code, Json.memberText, outer, Json.compact_object_one,
    Json.memberText, inner, Json.compact_array, texts]
  simp

/-- In key order the element type stands in front of the code. -/
theorem sorted_json_array (element : SqlType) :
    (array (some element)).json.sorted = .object [("arrayElementType".toList, element.json.sorted),
      ("code".toList, .string "ARRAY".toList)] :=
  rfl

/-- In key order the members of a struct stay where they are. -/
theorem sorted_json_struct (fields : List (Field SqlType)) :
    (struct fields).json.sorted = .object [("code".toList, .string "STRUCT".toList),
      ("structType".toList, .object [("fields".toList,
        .array (fields.map fun field => fieldTree field.name field.type.json.sorted))])] := by
  have items : Json.sortedItems (fields.map fun field =>
      fieldTree field.name field.type.json) =
        fields.map fun field => fieldTree field.name field.type.json.sorted := by
    rw [Json.sortedItems_eq_map, List.map_map]
    exact List.map_congr_left fun field _ => sorted_fieldTree field.name field.type.json
  rw [json_struct, ← items]
  rfl

/-- Fields are read back when their types are. -/
theorem fieldsOf?_map {fields : List (Field SqlType)} (tree : SqlType → Json)
    (each : ∀ field ∈ fields, optional? (tree field.type) = some (some field.type.wire)) :
    fieldsOf? (fields.map fun field => fieldTree field.name (tree field.type)) =
      some (wireFields fields) := by
  induction fields with
  | nil => rfl
  | cons field fields ih =>
      rw [List.forall_mem_cons] at each
      rw [List.map_cons, fieldsOf?, fieldOf?_fieldTree field.name each.1, ih each.2]
      rfl

/-- The wire type is read back from the JSON of a type. -/
theorem optional?_json (type : SqlType) : optional? type.json = some (some type.wire) := by
  induction type using SqlType.induction with
  | scalar kind =>
      rw [json_scalar]
      exact optional?_object (partsOf?_code _ partsOf?_nil)
  | untyped =>
      rw [json_untyped]
      exact optional?_object (partsOf?_code _ partsOf?_nil)
  | array element ih =>
      rw [json_array]
      exact optional?_object (partsOf?_code _ (partsOf?_element partsOf?_nil ih))
  | struct fields ih =>
      rw [json_struct]
      exact optional?_object (partsOf?_code _ (partsOf?_fields partsOf?_nil (fieldsOf?_map _ ih)))

/-- The wire type is also read back when the members are in key order. -/
theorem optional?_sorted_json (type : SqlType) :
    optional? type.json.sorted = some (some type.wire) := by
  induction type using SqlType.induction with
  | scalar kind => exact optional?_json (scalar kind)
  | untyped => exact optional?_json (array none)
  | array element ih =>
      rw [sorted_json_array]
      exact optional?_object (partsOf?_element (partsOf?_code _ partsOf?_nil) ih)
  | struct fields ih =>
      rw [sorted_json_struct]
      exact optional?_object (partsOf?_code _
        (partsOf?_fields partsOf?_nil (fieldsOf?_map (fun type => type.json.sorted) ih)))

/-- The name of a scalar type is its code. -/
theorem ofName?_scalar (kind : ScalarKind) : TypeCode.ofName? kind.name = some (.scalar kind) := by
  cases kind <;> decide

/-- Fields are what their wire types describe when their types are. -/
theorem ofWireFields_map {fields : List (Field SqlType)} (index : Nat)
    (each : ∀ field ∈ fields, ofWire field.type.wire = .ok field.type) :
    ofWireFields index (wireFields fields) = .ok fields := by
  induction fields generalizing index with
  | nil => rfl
  | cons field fields ih =>
      rw [List.forall_mem_cons] at each
      rw [wireFields, ofWireFields, each.1]
      change (ofWireFields (index + 1) (wireFields fields) >>= _) = _
      rw [ih _ each.2]
      rfl

/-- A type is what its wire type describes. -/
theorem ofWire_wire (type : SqlType) : ofWire type.wire = .ok type := by
  have array : TypeCode.ofName? "ARRAY".toList = some .array := by decide
  have struct : TypeCode.ofName? "STRUCT".toList = some .struct := by decide
  induction type using SqlType.induction with
  | scalar kind => simp only [wire, ofWire, ofName?_scalar]
  | untyped => simp only [wire, ofWire, array]
  | array element ih =>
      simp only [wire, ofWire, array, ih]
      rfl
  | struct fields ih =>
      simp only [wire, ofWire, struct, ofWireFields_map 0 ih]
      rfl

end SqlType

/-- The tree is the JSON itself, or has its members in key order as the tree of a text has them. -/
def Json.IsFormOf (tree json : Json) : Prop := tree = json ∨ tree = json.sorted

namespace TypedValue

/-- The type and the payload of a typed value are in key order as they stand. -/
theorem sorted_json (typed : TypedValue) :
    typed.json.sorted = .object [("type".toList, typed.type.json.sorted),
      ("value".toList, typed.value.json)] := by
  have value := typed.value.sorted_json
  unfold json
  rw [Json.sorted, Json.sortedMembers, Json.sortedMembers, value]
  rfl

/-- The wire type and the JSON of the payload make up the typed value. -/
theorem ofParts_eq_ok {typed : TypedValue} {tree : Json} (finite : typed.value.IsFinite)
    (read : WireType.optional? tree = some (some typed.type.wire)) :
    ofParts tree typed.value.json = .ok typed := by
  have wire : WireType.ofJson? tree = some typed.type.wire := by
    rw [WireType.ofJson?, read]
    rfl
  simp only [ofParts, wire, SqlType.ofWire_wire, Value.ofJson?_json finite]

/-- A typed value with finite numbers is read back from either form of its JSON. -/
theorem ofJson_of_isFormOf {typed : TypedValue} {tree : Json} (finite : typed.value.IsFinite)
    (form : tree.IsFormOf typed.json) : ofJson tree = .ok typed := by
  rcases form with rfl | rfl
  · exact ofParts_eq_ok finite typed.type.optional?_json
  · rw [sorted_json]
    exact ofParts_eq_ok finite typed.type.optional?_sorted_json

/-- A typed value is an object and stands for one cell. -/
theorem cellsOfJson_of_isFormOf {typed : TypedValue} {tree : Json} (finite : typed.value.IsFinite)
    (form : tree.IsFormOf typed.json) : cellsOfJson tree = .ok [typed] := by
  have read := ofJson_of_isFormOf finite form
  have isObject : ∃ members, tree = .object members := by
    rcases form with rfl | rfl
    · exact ⟨_, rfl⟩
    · exact ⟨_, sorted_json typed⟩
  obtain ⟨members, rfl⟩ := isObject
  rw [cellsOfJson, read]
  · rfl
  · simp

/-- Typed values are read back one by one. -/
theorem allOfJson_map {cells : List TypedValue} (tree : TypedValue → Json)
    (each : ∀ typed ∈ cells, ofJson (tree typed) = .ok typed) :
    allOfJson (cells.map tree) = .ok cells := by
  induction cells with
  | nil => rfl
  | cons typed cells ih =>
      rw [List.forall_mem_cons] at each
      rw [List.map_cons, allOfJson, each.1]
      change (allOfJson (cells.map tree) >>= _) = _
      rw [ih each.2]
      rfl

/-- Typed values with finite numbers are read back in order from the array of their JSON. -/
theorem cellsOfJson_array {cells : List TypedValue} {tree : Json}
    (finite : ∀ typed ∈ cells, typed.value.IsFinite)
    (form : tree.IsFormOf (.array (cells.map json))) : cellsOfJson tree = .ok cells := by
  rcases form with rfl | rfl
  · exact allOfJson_map json fun typed member => ofJson_of_isFormOf (finite typed member) (.inl rfl)
  · rw [Json.sorted, Json.sortedItems_eq_map, List.map_map]
    exact allOfJson_map _ fun typed member => ofJson_of_isFormOf (finite typed member) (.inr rfl)

end TypedValue

end ParamCodec
