import ParamCodec.Proofs.Grammar.Word

namespace ParamCodec

variable {ι ε α β : Type} {fault? : ι → Option ε} {items others : List ι} {result : Except ε α}
  {property : α → Prop}

/-- The result rests on the items: it fails as the first of them that has a fault, and when none has, it
succeeds with a value of the property. -/
def RestsOn (fault? : ι → Option ε) (items : List ι) (property : α → Prop) (result : Except ε α) : Prop :=
  match items.findSome? fault? with
  | some error => result = .error error
  | none => ∃ value, result = .ok value ∧ property value

namespace RestsOn

/-- A value rests on no items. -/
theorem ok {value : α} (holds : property value) : RestsOn fault? [] property (.ok value) :=
  ⟨value, rfl, holds⟩

/-- Behind an item with a fault nothing counts. -/
theorem error {item : ι} {error : ε} (faulty : fault? item = some error) :
    RestsOn fault? (item :: items) property (.error error) := by
  rw [RestsOn, List.findSome?_cons, faulty]

/-- An item without a fault may stand in front. -/
theorem cons {item : ι} (sound : fault? item = none) (rests : RestsOn fault? items property result) :
    RestsOn fault? (item :: items) property result := by
  rwa [RestsOn, List.findSome?_cons, sound]

/-- What rests on items for a property does so for every weaker one. -/
theorem imp {property' : α → Prop} (rests : RestsOn fault? items property result)
    (keeps : ∀ value, property value → property' value) : RestsOn fault? items property' result := by
  unfold RestsOn at rests ⊢
  split at rests
  · exact rests
  · obtain ⟨value, same, holds⟩ := rests
    exact ⟨value, same, keeps value holds⟩

/-- What is done with a value rests on items of its own, which count after those of the value. -/
theorem bind {property' : β → Prop} {next : α → Except ε β} (rests : RestsOn fault? items property result)
    (continues : ∀ value, property value → RestsOn fault? others property' (next value)) :
    RestsOn fault? (items ++ others) property' (result >>= next) := by
  unfold RestsOn at rests
  rw [RestsOn, List.findSome?_append]
  cases found : items.findSome? fault? with
  | some error =>
      rw [found] at rests
      rw [rests]
      rfl
  | none =>
      rw [found] at rests
      obtain ⟨value, rfl, holds⟩ := rests
      exact continues value holds

/-- A change of the value behind a result rests on the same items. -/
theorem bind_ok {property' : β → Prop} {change : α → β} (rests : RestsOn fault? items property result)
    (keeps : ∀ value, property value → property' (change value)) :
    RestsOn fault? items property' (result >>= fun value => .ok (change value)) := by
  have both : RestsOn fault? (items ++ []) property' (result >>= fun value => .ok (change value)) :=
    rests.bind fun value holds => ok (keeps value holds)
  rwa [List.append_nil] at both

/-- A changed result rests on the same items. -/
theorem map {property' : β → Prop} {change : α → β} (rests : RestsOn fault? items property result)
    (keeps : ∀ value, property value → property' (change value)) :
    RestsOn fault? items property' (result.map change) := by
  have done := rests.bind_ok keeps
  cases result <;> exact done

/-- The result is a success exactly when no item has a fault. -/
theorem succeeds_iff (rests : RestsOn fault? items property result) :
    (∃ value, result = .ok value) ↔ ∀ item ∈ items, fault? item = none := by
  rw [← List.findSome?_eq_none_iff]
  unfold RestsOn at rests
  cases found : items.findSome? fault? with
  | some error =>
      rw [found] at rests
      simp [rests]
  | none =>
      rw [found] at rests
      obtain ⟨value, same, _⟩ := rests
      simp [same]

/-- The error of the result is that of the first item with a fault. -/
theorem fails_iff {error : ε} (rests : RestsOn fault? items property result) :
    result = .error error ↔ ∃ before item after, items = before ++ item :: after ∧
      fault? item = some error ∧ ∀ earlier ∈ before, fault? earlier = none := by
  rw [← List.findSome?_eq_some_iff]
  unfold RestsOn at rests
  cases found : items.findSome? fault? with
  | some first =>
      rw [found] at rests
      rw [rests, Except.error.injEq, Option.some.injEq]
  | none =>
      rw [found] at rests
      obtain ⟨value, same, _⟩ := rests
      simp [same]

/-- A successful result has the property. -/
theorem holds {value : α} (rests : RestsOn fault? items property result) (succeeds : result = .ok value) :
    property value := by
  unfold RestsOn at rests
  split at rests
  · rw [rests] at succeeds
    cases succeeds
  · obtain ⟨found, same, holds⟩ := rests
    cases same.symm.trans succeeds
    exact holds

end RestsOn

end ParamCodec
