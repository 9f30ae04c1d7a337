import ParamCodec.Proofs.Binding.Permission

namespace ParamCodec

namespace Entries

variable {α : Type} {name : Text} {value : α}

/-- A name that is put a second time stays at its place, and a new one comes last. -/
theorem map_fst_put (entries : Entries α) : (put name value entries).map Prod.fst =
    if name ∈ entries.map Prod.fst then entries.map Prod.fst else entries.map Prod.fst ++ [name] := by
  induction entries with
  | nil => rfl
  | cons entry entries ih =>
      obtain ⟨other, old⟩ := entry
      rw [put]
      by_cases same : other = name
      · simp [same]
      · rw [if_neg same, List.map_cons, ih]
        simp only [List.map_cons, List.mem_cons, Ne.symm same, false_or]
        split <;> rfl

/-- A name that is not there yet goes to the end. -/
theorem put_new {entries : Entries α} (new : name ∉ entries.map Prod.fst) :
    put name value entries = entries ++ [(name, value)] := by
  induction entries with
  | nil => rfl
  | cons entry entries ih =>
      obtain ⟨other, old⟩ := entry
      rw [List.map_cons, List.mem_cons, not_or] at new
      rw [put, if_neg (Ne.symm new.1), ih new.2, List.cons_append]

/-- Names stay distinct when an entry is put. -/
theorem put_distinct {entries : Entries α} (distinct : (entries.map Prod.fst).Nodup) :
    ((put name value entries).map Prod.fst).Nodup := by
  rw [map_fst_put]
  split
  · exact distinct
  · next new => exact List.nodup_append.mpr ⟨distinct, List.nodup_singleton name,
      fun _ old _ last same => new (List.mem_singleton.mp last ▸ same ▸ old)⟩

/-- A name that is put is the only one whose value changes. -/
theorem mem_put {entries : Entries α} (distinct : (entries.map Prod.fst).Nodup) {other : Text}
    {found : α} : (other, found) ∈ put name value entries ↔
      (other = name ∧ found = value) ∨ (other ≠ name ∧ (other, found) ∈ entries) := by
  induction entries with
  | nil => simp [put]
  | cons entry entries ih =>
      obtain ⟨first, old⟩ := entry
      rw [List.map_cons, List.nodup_cons] at distinct
      rw [put]
      by_cases same : first = name
      · subst same
        -- The name stands here, so by distinctness nowhere behind.
        have elsewhere (inside : (other, found) ∈ entries) : other ≠ first := by
          rintro rfl
          exact distinct.1 (List.mem_map.mpr ⟨_, inside, rfl⟩)
        rw [if_pos rfl]
        simp only [List.mem_cons, Prod.mk.injEq]
        constructor
        · rintro (put | inside)
          · exact .inl put
          · exact .inr ⟨elsewhere inside, .inr inside⟩
        · rintro (put | ⟨differs, same | inside⟩)
          · exact .inl put
          · exact absurd same.1 differs
          · exact .inr inside
      · rw [if_neg same, List.mem_cons, List.mem_cons, ih distinct.2]
        constructor
        · rintro (first | put | inside)
          · cases first
            exact .inr ⟨same, .inl rfl⟩
          · exact .inl put
          · exact .inr ⟨inside.1, .inr inside.2⟩
        · rintro (put | ⟨differs, first | inside⟩)
          · exact .inr (.inl put)
          · exact .inl first
          · exact .inr (.inr ⟨differs, inside⟩)

end Entries

namespace Binding

open Grammar

/-- The fragment of the last entry with a name. -/
def IsLast (name code : Text) (entries : List (Text × Text)) : Prop :=
  ∃ before after, entries = before ++ (name, code) :: after ∧ name ∉ after.map Prod.fst

/-- The last entry of a name is the added one, or else the one that was last before. -/
theorem isLast_concat {name code last fragment : Text} {entries : List (Text × Text)} :
    IsLast name code (entries ++ [(last, fragment)]) ↔
      (name = last ∧ code = fragment) ∨ (name ≠ last ∧ IsLast name code entries) := by
  constructor
  · rintro ⟨before, after, same, free⟩
    cases after using List.reverseRecOn with
    | nil =>
        obtain ⟨_, found⟩ := List.append_inj' same rfl
        cases found
        exact .inl ⟨rfl, rfl⟩
    | append_singleton after entry =>
        rw [← List.cons_append, ← List.append_assoc] at same
        obtain ⟨whole, found⟩ := List.append_inj' same rfl
        cases found
        rw [List.map_append, List.mem_append, not_or] at free
        exact .inr ⟨fun same => free.2 (same ▸ List.mem_singleton_self _), before, after, whole, free.1⟩
  · rintro (⟨rfl, rfl⟩ | ⟨differs, before, after, rfl, free⟩)
    · exact ⟨entries, [], rfl, List.not_mem_nil⟩
    · refine ⟨before, after ++ [(last, fragment)], by simp, ?_⟩
      rw [List.map_append, List.mem_append, not_or]
      exact ⟨free, fun same => differs (List.mem_singleton.mp same)⟩

section Building

variable (permitTypes : Bool)

/-- The fragment of the entry has a typed value. -/
def Succeeds (entry : Text × Text) : Prop :=
  ∃ typed, (parameter permitTypes entry.2).result = .ok typed

/-- What is told about each entry on its own, one after another. -/
def entryLogs (entries : List (Text × Text)) : List Text :=
  entries.flatMap fun entry => (parameter permitTypes entry.2).log

/-- The parameters hold each name once, where it came first, with the value that came last. -/
structure Collects (done : List (Text × Text)) (built : Parameters) : Prop where
  distinct : (built.map Prod.fst).Nodup
  names : built.map Prod.fst = (done.map Prod.fst).eraseDups
  values : ∀ name typed, (name, typed) ∈ built ↔
    ∃ code, IsLast name code done ∧ (parameter permitTypes code).result = .ok typed

/-- All entries succeed, or there is a first one that does not. -/
theorem succeeds_or_fails (entries : List (Text × Text)) :
    (∀ entry ∈ entries, Succeeds permitTypes entry) ∨
      ∃ before name code after cause, entries = before ++ (name, code) :: after ∧
        (∀ entry ∈ before, Succeeds permitTypes entry) ∧
        (parameter permitTypes code).result = .error cause := by
  induction entries with
  | nil => exact .inl fun _ inside => nomatch inside
  | cons entry entries ih =>
      obtain ⟨name, code⟩ := entry
      cases result : (parameter permitTypes code).result with
      | error cause =>
          exact .inr ⟨[], name, code, entries, cause, rfl, fun _ inside => (nomatch inside), result⟩
      | ok typed =>
          have first : Succeeds permitTypes (name, code) := ⟨typed, result⟩
          rcases ih with all | ⟨before, other, fragment, after, cause, rfl, succeed, failed⟩
          · exact .inl (List.forall_mem_cons.mpr ⟨first, all⟩)
          · exact .inr ⟨(name, code) :: before, other, fragment, after, cause, rfl,
              List.forall_mem_cons.mpr ⟨first, succeed⟩, failed⟩

variable {permitTypes}

/-- No parameters collect no entries. -/
theorem collects_nil : Collects permitTypes [] [] where
  distinct := List.nodup_nil
  names := rfl
  values := by simp [IsLast]

/-- One more entry is collected by putting its value. -/
theorem Collects.put {done : List (Text × Text)} {built : Parameters} {name code : Text}
    {typed : TypedValue} (collects : Collects permitTypes done built)
    (result : (parameter permitTypes code).result = .ok typed) :
    Collects permitTypes (done ++ [(name, code)]) (Entries.put name typed built) where
  distinct := Entries.put_distinct collects.distinct
  names := by
    rw [Entries.map_fst_put, List.map_append, List.eraseDups_append, collects.names]
    by_cases old : name ∈ done.map Prod.fst
    · simp [List.removeAll, old]
    · simp [List.removeAll, old, List.eraseDups_cons]
  values := by
    intro other found
    rw [Entries.mem_put collects.distinct, collects.values]
    constructor
    · rintro (⟨rfl, rfl⟩ | ⟨differs, fragment, last, found⟩)
      · exact ⟨code, isLast_concat.mpr (.inl ⟨rfl, rfl⟩), result⟩
      · exact ⟨fragment, isLast_concat.mpr (.inr ⟨differs, last⟩), found⟩
    · rintro ⟨fragment, last, found⟩
      rcases isLast_concat.mp last with ⟨rfl, rfl⟩ | ⟨differs, last⟩
      · exact .inl ⟨rfl, Except.ok.inj (found.symm.trans result)⟩
      · exact .inr ⟨differs, fragment, last, found⟩

/-- Entries that succeed are all collected, and everything that is told of them is told. -/
theorem addAll_of_succeeds {done rest : List (Text × Text)} {earlier : Parameters}
    (collects : Collects permitTypes done earlier) (succeed : ∀ entry ∈ rest, Succeeds permitTypes entry) :
    ∃ built, addAll permitTypes earlier rest = ⟨entryLogs permitTypes rest, .ok built⟩ ∧
      Collects permitTypes (done ++ rest) built := by
  induction rest generalizing done earlier with
  | nil => exact ⟨earlier, rfl, by rwa [List.append_nil]⟩
  | cons entry rest ih =>
      obtain ⟨name, code⟩ := entry
      obtain ⟨typed, result⟩ := succeed (name, code) (List.mem_cons_self ..)
      obtain ⟨built, added, collected⟩ := ih (collects.put result)
        fun entry inside => succeed entry (List.mem_cons_of_mem _ inside)
      refine ⟨built, ?_, by rwa [List.append_assoc] at collected⟩
      rw [addAll, result]
      dsimp only
      rw [added]
      rfl

/-- The first entry that fails ends the building with its own error, under its name. -/
theorem addAll_of_fails {before after : List (Text × Text)} {name code : Text} {cause : Error}
    (succeed : ∀ entry ∈ before, Succeeds permitTypes entry)
    (failed : (parameter permitTypes code).result = .error cause) (earlier : Parameters) :
    addAll permitTypes earlier (before ++ (name, code) :: after) =
      ⟨entryLogs permitTypes (before ++ [(name, code)]), .error (.inParameter name cause)⟩ := by
  induction before generalizing earlier with
  | nil =>
      rw [List.nil_append, addAll, failed]
      simp [entryLogs]
  | cons entry before ih =>
      obtain ⟨first, fragment⟩ := entry
      obtain ⟨typed, result⟩ := succeed (first, fragment) (List.mem_cons_self ..)
      rw [List.cons_append, addAll, result]
      dsimp only
      rw [ih fun entry inside => succeed entry (List.mem_cons_of_mem _ inside)]
      rfl

end Building

/-- What is told ends with the type of the result, or with a line on something else. -/
def TellsType (traced : Traced TypedValue) : Prop :=
  (∀ typed, traced.result = .ok typed → traced.log.getLast? = some (resolvedType typed)) ∧
  (∀ error, traced.result = .error error →
    ∀ line ∈ traced.log.getLast?, ¬ "resolved type ".toList <+: line)

/-- Only what has a typed value ends with a type. -/
theorem TellsType.exists_ok {traced : Traced TypedValue} (tells : TellsType traced) {line : Text}
    (last : traced.log.getLast? = some line) (type : "resolved type ".toList <+: line) :
    ∃ typed, traced.result = .ok typed := by
  cases result : traced.result with
  | ok typed => exact ⟨typed, rfl⟩
  | error error => exact absurd type (tells.2 error result line last)

/-- A line that starts with a quote tells no type. -/
theorem not_resolvedType_of_quoted {code rest line : Text} (quoted : line = Text.quoted code ++ rest) :
    ¬ "resolved type ".toList <+: line := by
  rintro ⟨more, same⟩
  rw [quoted, Text.quoted] at same
  cases (List.cons_eq_cons.mp same).1

/-- A conclusion tells the type of its result behind its first line. -/
theorem concluded_tellsType {first : Text} (other : ¬ "resolved type ".toList <+: first)
    (result : Except Error TypedValue) : TellsType (concluded first result) := by
  cases result with
  | ok typed =>
      refine ⟨fun _ same => ?_, fun _ failed => nomatch failed⟩
      cases same
      rfl
  | error error =>
      refine ⟨fun _ same => (nomatch same), fun _ _ line last => ?_⟩
      cases last
      exact other

/-- A line in front does not change that the type is told last. -/
theorem TellsType.after {traced : Traced TypedValue} (tells : TellsType traced) {line : Text}
    (other : ¬ "resolved type ".toList <+: line) : TellsType (traced.after [line]) := by
  obtain ⟨succeeds, fails⟩ := tells
  constructor
  · intro typed result
    rw [Traced.after, List.getLast?_append, succeeds typed result]
    rfl
  · intro error result last found
    rw [Traced.after, List.getLast?_append] at found
    cases told : traced.log.getLast? with
    | none =>
        rw [told] at found
        cases found
        exact other
    | some line =>
        rw [told] at found
        cases found
        exact fails error result _ told

/-- A bound literal tells its type last. -/
theorem literal_tellsType (code : Text) : TellsType (literal code) := by
  unfold literal
  split
  · next expression _ =>
    have other : ¬ "resolved type ".toList <+: readAsLiteral code expression :=
      not_resolvedType_of_quoted (List.append_assoc _ _ _)
    exact concluded_tellsType other _
  · exact ⟨fun _ same => (nomatch same), fun _ _ _ last => (nomatch last)⟩

/-- A bound parameter tells its type last. -/
theorem parameter_tellsType (permitTypes : Bool) (code : Text) :
    TellsType (parameter permitTypes code) := by
  unfold parameter
  split
  · split
    · next fragment _ =>
      have other : ¬ "resolved type ".toList <+: readAsType code fragment :=
        not_resolvedType_of_quoted (List.append_assoc _ _ _)
      exact concluded_tellsType other _
    · next error _ =>
      have other : ¬ "resolved type ".toList <+: notAType code error :=
        not_resolvedType_of_quoted (List.append_assoc _ _ _)
      exact (literal_tellsType code).after other
  · exact literal_tellsType code

/-- Building from entries is building from each of them: the last value of each name in the order of
the first, or the first error. -/
theorem parameters_each_entry (permitTypes : Bool) (entries : List (Text × Text)) :
    ((∃ built, (parameters permitTypes entries).result = .ok built) ↔
      ∀ entry ∈ entries, Succeeds permitTypes entry) ∧
    (∀ built, (parameters permitTypes entries).result = .ok built →
      built.map Prod.fst = (entries.map Prod.fst).eraseDups ∧
      (∀ name typed, (name, typed) ∈ built ↔
        ∃ code, IsLast name code entries ∧ (parameter permitTypes code).result = .ok typed) ∧
      (parameters permitTypes entries).log = entryLogs permitTypes entries) ∧
    (∀ error, (parameters permitTypes entries).result = .error error →
      ∃ before name code after cause, entries = before ++ (name, code) :: after ∧
        (∀ entry ∈ before, Succeeds permitTypes entry) ∧
        (parameter permitTypes code).result = .error cause ∧ error = .inParameter name cause ∧
        (parameters permitTypes entries).log = entryLogs permitTypes (before ++ [(name, code)])) ∧
    (∀ entry ∈ entries,
      (∀ typed, (parameter permitTypes entry.2).result = .ok typed →
        (parameter permitTypes entry.2).log.getLast? =
          some ("resolved type ".toList ++ typed.type.json.compact)) ∧
      (∀ line, (parameter permitTypes entry.2).log.getLast? = some line →
        "resolved type ".toList <+: line → Succeeds permitTypes entry)) := by
  have tells (entry : Text × Text) := parameter_tellsType permitTypes entry.2
  rcases succeeds_or_fails permitTypes entries with all | found
  · obtain ⟨built, added, collects⟩ := addAll_of_succeeds collects_nil all
    rw [List.nil_append] at collects
    rw [parameters, added]
    refine ⟨⟨fun _ => all, fun _ => ⟨built, rfl⟩⟩, ?_, fun _ failed => (nomatch failed),
      fun entry _ => ⟨(tells entry).1, fun _ last type => (tells entry).exists_ok last type⟩⟩
    rintro _ ⟨⟩
    exact ⟨collects.names, collects.values, rfl⟩
  · obtain ⟨before, name, code, after, cause, rfl, succeed, failed⟩ := found
    rw [parameters, addAll_of_fails succeed failed]
    refine ⟨⟨fun ⟨_, built⟩ => (nomatch built), fun all => ?_⟩, fun _ built => (nomatch built), ?_,
      fun entry _ => ⟨(tells entry).1, fun _ last type => (tells entry).exists_ok last type⟩⟩
    · obtain ⟨typed, result⟩ := all (name, code) (by simp)
      cases failed.symm.trans result
    · rintro _ ⟨⟩
      exact ⟨before, name, code, after, cause, rfl, succeed, failed, rfl, rfl⟩

/-- A value that is overwritten, and a failure between two entries of one name. -/
theorem parameters_each_entry_repeated :
    (∃ code, IsLast "b".toList code
        [("b".toList, "1".toList), ("a".toList, "'x'".toList), ("b".toList, "TRUE".toList)] ∧
      (parameter true code).result = .ok ⟨.scalar .bool, .bool true⟩) ∧
    (∃ before name code after cause,
      [("a".toList, "1".toList), ("b".toList, "x.y".toList), ("a".toList, "(".toList)] =
        before ++ (name, code) :: after ∧
      (∀ entry ∈ before, Succeeds false entry) ∧ (parameter false code).result = .error cause ∧
      Error.inParameter "b".toList (.unsupported (.path [⟨"x".toList, false⟩, ⟨"y".toList, false⟩])) =
        .inParameter name cause ∧
      (parameters false
          [("a".toList, "1".toList), ("b".toList, "x.y".toList), ("a".toList, "(".toList)]).log =
        entryLogs false (before ++ [(name, code)])) := by
  have built : (parameters true
      [("b".toList, "1".toList), ("a".toList, "'x'".toList), ("b".toList, "TRUE".toList)]).result =
      .ok [("b".toList, ⟨.scalar .bool, .bool true⟩),
        ("a".toList, ⟨.scalar .string, .string "x".toList⟩)] := eq_ok_of_toOption (by decide +kernel)
  have failed : (parameters false
      [("a".toList, "1".toList), ("b".toList, "x.y".toList), ("a".toList, "(".toList)]).result =
      .error (.inParameter "b".toList
        (.unsupported (.path [⟨"x".toList, false⟩, ⟨"y".toList, false⟩]))) :=
    eq_error_of_match (by decide +kernel)
  refine ⟨?_, (parameters_each_entry false _).2.2.1 _ failed⟩
  exact (((parameters_each_entry true _).2.1 _ built).2.1 _ _).mp (List.mem_cons_self ..)

end Binding

end ParamCodec
