import ParamCodec.Command.Run
import ParamCodec.Proofs.Binding.Blanks
import ParamCodec.Proofs.Binding.EachEntry
import ParamCodec.Proofs.FirstFault

namespace ParamCodec

namespace Text

/-- Trimming takes nothing but blanks off both ends. -/
theorem exists_trimmed (text : Text) : ∃ before after, text = before ++ trim text ++ after ∧
    before.all isBlank = true ∧ after.all isBlank = true := by
  have left (source : Text) : ∃ blanks, source = blanks ++ trimLeft source ∧
      blanks.all isBlank = true :=
    ⟨source.takeWhile isBlank, List.takeWhile_append_dropWhile.symm, List.all_takeWhile⟩
  obtain ⟨before, whole, blankBefore⟩ := left text
  obtain ⟨after, reversed, blankAfter⟩ := left (trimLeft text).reverse
  refine ⟨before, after.reverse, ?_, blankBefore, by rwa [List.all_reverse]⟩
  rw [List.append_assoc, trim, ← List.reverse_append, ← reversed, List.reverse_reverse]
  exact whole

/-- Nothing is left of a text without its blanks exactly when it is blank. -/
theorem trim_eq_nil_iff {text : Text} : trim text = [] ↔ text.all isBlank = true := by
  constructor
  · intro empty
    obtain ⟨before, after, whole, blankBefore, blankAfter⟩ := exists_trimmed text
    rw [whole, empty, List.append_nil, List.all_append, blankBefore, blankAfter]
    rfl
  · intro blank
    have none : trimLeft text = [] := List.dropWhile_eq_nil_iff.mpr (List.all_eq_true.mp blank)
    rw [trim, none]
    rfl

end Text

namespace Binding

/-- Blanks at the ends of a fragment do not change its typed value. -/
theorem parameter_trim {permitTypes : Bool} {code : Text} {typed : TypedValue}
    (built : (parameter permitTypes code).result = .ok typed) :
    (parameter permitTypes (Text.trim code)).result = .ok typed := by
  obtain ⟨before, after, whole, blankBefore, blankAfter⟩ := Text.exists_trimmed code
  have alike := parameter_alike_between_blanks blankBefore blankAfter (Text.trim code) permitTypes
  rw [← whole, built] at alike
  generalize (parameter permitTypes (Text.trim code)).result = trimmed at alike ⊢
  cases alike with
  | ok same => rw [same]

/-- The entries hold a code for every parameter, in the same order, and it has the parameter's value. -/
structure Corresponds (permitTypes : Bool) (entries : Entries Text) (built : Parameters) : Prop where
  distinct : (entries.map Prod.fst).Nodup
  means : List.Forall₂ (fun entry found => entry.1 = found.1 ∧
    (parameter permitTypes entry.2).result = .ok found.2) entries built

variable {permitTypes : Bool} {entries : Entries Text} {built : Parameters}

/-- An entry that is put beside its value corresponds to it. -/
theorem Corresponds.put {name code : Text} {typed : TypedValue}
    (corresponds : Corresponds permitTypes entries built)
    (result : (parameter permitTypes code).result = .ok typed) :
    Corresponds permitTypes (Entries.put name code entries) (Entries.put name typed built) where
  distinct := Entries.put_distinct corresponds.distinct
  means := by
    have means := corresponds.means
    clear corresponds
    induction means with
    | nil => exact .cons ⟨rfl, result⟩ .nil
    | @cons entry found entries built first others ih =>
        obtain ⟨other, old⟩ := entry
        obtain ⟨_, value⟩ := found
        obtain ⟨rfl, means⟩ := first
        rw [Entries.put, Entries.put]
        split
        · exact .cons ⟨rfl, result⟩ others
        · exact .cons ⟨rfl, means⟩ ih

/-- Building from distinct entries adds each of them at the end. -/
theorem addAll_of_means (earlier : Parameters)
    (distinct : (earlier.map Prod.fst ++ entries.map Prod.fst).Nodup)
    (means : List.Forall₂ (fun entry found => entry.1 = found.1 ∧
      (parameter permitTypes entry.2).result = .ok found.2) entries built) :
    (addAll permitTypes earlier entries).result = .ok (earlier ++ built) := by
  induction means generalizing earlier with
  | nil => rw [List.append_nil]; rfl
  | @cons entry found entries built first others ih =>
      obtain ⟨name, code⟩ := entry
      obtain ⟨_, typed⟩ := found
      obtain ⟨rfl, result⟩ := first
      have new : name ∉ earlier.map Prod.fst := fun old =>
        (List.disjoint_of_nodup_append distinct old) (by simp)
      rw [addAll, result]
      dsimp only [Traced.after]
      rw [Entries.put_new new, ih, List.append_assoc]
      · rfl
      · simpa using distinct

/-- Entries that correspond to parameters are bound to them. -/
theorem Corresponds.parameters (corresponds : Corresponds permitTypes entries built) :
    (parameters permitTypes entries).result = .ok built :=
  addAll_of_means [] corresponds.distinct corresponds.means

end Binding

namespace Run

open Binding Grammar

/-- The name and the code on the two sides of the first equals sign, the name without blanks around it. -/
def SplitsInto (argument : Text) (pair : Text × Text) : Prop :=
  ∃ before, argument = before ++ '=' :: pair.2 ∧ '=' ∉ before ∧ pair.1 = Text.trim before

/-- What is wrong with an argument: it has no equals sign, or only blanks before the first one. -/
inductive ArgumentFault (argument : Text) : CommandFault → Prop
  | unseparated (none : '=' ∉ argument) : ArgumentFault argument (.unseparated argument)
  | nameless {blanks code : Text} (whole : argument = blanks ++ '=' :: code)
      (blank : blanks.all Text.isBlank = true) : ArgumentFault argument (.nameless argument)

/-- The context of a fault holds the argument. -/
theorem ArgumentFault.argument_told {argument : Text} {fault : CommandFault}
    (faulty : ArgumentFault argument fault) : argument <:+: fault.context := by
  cases faulty with
  | unseparated _ => exact ⟨"Invalid parameter format: '".toList, "'. Expected 'name=code'".toList, rfl⟩
  | nameless _ _ => exact ⟨"Missing parameter name in '".toList, ['\x27'], rfl⟩

/-- An argument is split in one way only. -/
theorem SplitsInto.unique {argument : Text} {pair other : Text × Text}
    (splits : SplitsInto argument pair) (splits' : SplitsInto argument other) : pair = other := by
  obtain ⟨name, code⟩ := pair
  obtain ⟨name', code'⟩ := other
  obtain ⟨before, whole, free, rfl⟩ := splits
  obtain ⟨before', whole', free', rfl⟩ := splits'
  have found := splitAtFirst?_eq_some_iff.mpr ⟨whole, free⟩
  rw [splitAtFirst?_eq_some_iff.mpr ⟨whole', free'⟩] at found
  obtain ⟨rfl, rfl⟩ := Prod.mk.inj (Option.some.inj found)
  rfl

/-- An argument is an entry exactly when it splits and its name is not empty. -/
theorem entry_eq_ok_iff {argument name code : Text} : entry argument = .ok (name, code) ↔
    ∃ untrimmed, SplitsInto argument (name, untrimmed) ∧ name ≠ [] ∧ code = Text.trim untrimmed := by
  constructor
  · intro read
    unfold entry at read
    split at read
    · cases read
    · next before after found =>
      split at read
      · cases read
      · next named =>
        cases read
        obtain ⟨whole, free⟩ := splitAtFirst?_eq_some_iff.mp found
        exact ⟨after, ⟨before, whole, free, rfl⟩, by simpa using named, rfl⟩
  · rintro ⟨after, ⟨before, whole, free, rfl⟩, named, rfl⟩
    rw [entry, splitAtFirst?_eq_some_iff.mpr ⟨whole, free⟩]
    simp [named]

/-- An argument is refused exactly for one of its faults. -/
theorem entry_eq_error_iff {argument : Text} {fault : CommandFault} :
    entry argument = .error fault ↔ ArgumentFault argument fault := by
  constructor
  · intro failed
    unfold entry at failed
    split at failed
    · next none =>
      cases failed
      exact .unseparated (splitAtFirst?_eq_none_iff.mp none)
    · next before after found =>
      split at failed
      · next nameless =>
        cases failed
        obtain ⟨whole, _⟩ := splitAtFirst?_eq_some_iff.mp found
        exact .nameless whole (Text.trim_eq_nil_iff.mp (List.isEmpty_iff.mp nameless))
      · cases failed
  · intro faulty
    cases faulty with
    | unseparated none => rw [entry, splitAtFirst?_eq_none_iff.mpr none]
    | @nameless blanks code whole blank =>
        have free : '=' ∉ blanks := fun inside =>
          absurd (List.all_eq_true.mp blank '=' inside) (by decide)
        rw [entry, splitAtFirst?_eq_some_iff.mpr ⟨whole, free⟩]
        simp [Text.trim_eq_nil_iff.mpr blank]

/-- What is wrong with an argument on its own. -/
def entryFault? (argument : Text) : Option CommandFault :=
  match entry argument with
  | .ok _ => none
  | .error fault => some fault

/-- The fault of an argument is the one that it is refused for. -/
theorem entryFault?_eq_some_iff {argument : Text} {fault : CommandFault} :
    entryFault? argument = some fault ↔ ArgumentFault argument fault := by
  rw [← entry_eq_error_iff, entryFault?]
  cases entry argument <;> simp

/-- Collecting entries rests on the arguments in order. -/
theorem addEntries_restsOn (earlier : Entries Text) (arguments : List Text) :
    RestsOn entryFault? arguments (fun _ => ∃ pairs, List.Forall₂ SplitsInto arguments pairs)
      (addEntries earlier arguments) := by
  induction arguments generalizing earlier with
  | nil => exact .ok ⟨[], .nil⟩
  | cons argument rest ih =>
      cases read : entry argument with
      | error fault =>
          rw [addEntries, read]
          exact .error (by rw [entryFault?, read])
      | ok pair =>
          obtain ⟨name, code⟩ := pair
          obtain ⟨untrimmed, splits, _⟩ := entry_eq_ok_iff.mp read
          rw [addEntries, read]
          refine .cons (by rw [entryFault?, read]) ?_
          exact (ih (Entries.put name code earlier)).imp
            fun _ ⟨pairs, split⟩ => ⟨(name, untrimmed) :: pairs, .cons splits split⟩

/-- Entries that correspond to the parameters built so far do so after all arguments. -/
theorem addEntries_corresponds {permitTypes : Bool} {arguments : List Text} {pairs : List (Text × Text)}
    {earlier entries : Entries Text} {before built : Parameters}
    (splits : List.Forall₂ SplitsInto arguments pairs)
    (corresponds : Corresponds permitTypes earlier before)
    (added : addEntries earlier arguments = .ok entries)
    (result : (addAll permitTypes before pairs).result = .ok built) :
    Corresponds permitTypes entries built := by
  induction splits generalizing earlier before with
  | nil =>
      cases added
      cases result
      exact corresponds
  | @cons argument pair arguments pairs first others ih =>
      obtain ⟨name, code⟩ := pair
      obtain ⟨⟨found, trimmed⟩, read, added⟩ := bind_eq_ok_iff.mp added
      obtain ⟨untrimmed, splits, _, rfl⟩ := entry_eq_ok_iff.mp read
      obtain ⟨rfl, rfl⟩ := Prod.mk.inj (SplitsInto.unique splits first)
      rw [addAll] at result
      cases parameter : (parameter permitTypes untrimmed).result with
      | error cause =>
          rw [parameter] at result
          cases result
      | ok typed =>
          rw [parameter] at result
          exact ih (corresponds.put (parameter_trim parameter)) added result

/-- The arguments are refused exactly when one of them has a fault, as the first that has one. Otherwise
the entries, trimmed and one for each name, build the parameters that the arguments themselves build. -/
theorem entries_parameters (permitTypes : Bool) (arguments : List Text) :
    (∀ fault, entries arguments = .error fault ↔ ∃ before argument after,
      arguments = before ++ argument :: after ∧ ArgumentFault argument fault ∧
        argument <:+: fault.context ∧ ∀ earlier ∈ before, ∀ other, ¬ ArgumentFault earlier other) ∧
    (∀ found, entries arguments = .ok found →
      ∃ pairs, List.Forall₂ SplitsInto arguments pairs ∧
        (∀ others, List.Forall₂ SplitsInto arguments others → others = pairs) ∧
        ∀ built, (parameters permitTypes pairs).result = .ok built →
          (parameters permitTypes found).result = .ok built) := by
  have rests := addEntries_restsOn [] arguments
  constructor
  · intro fault
    rw [entries, rests.fails_iff]
    refine exists_congr fun before => exists_congr fun argument => exists_congr fun after =>
      and_congr_right fun _ => ?_
    rw [entryFault?_eq_some_iff]
    refine and_congr_right fun faulty => ?_
    rw [and_iff_right faulty.argument_told]
    refine forall₂_congr fun earlier _ => ?_
    rw [Option.eq_none_iff_forall_ne_some]
    exact forall_congr' fun other => not_congr entryFault?_eq_some_iff
  · intro found read
    obtain ⟨pairs, splits⟩ := rests.holds read
    refine ⟨pairs, splits, fun others splits' => ?_, fun built result => ?_⟩
    · have unique : Relator.RightUnique SplitsInto := fun _ _ _ => SplitsInto.unique
      exact unique.forall₂ splits' splits
    · have start : Corresponds permitTypes [] [] := ⟨List.nodup_nil, .nil⟩
      exact (addEntries_corresponds splits start read result).parameters

/-- A repeated name whose codes have blanks around them, and an argument that is refused before another. -/
theorem entries_parameters_repeated :
    (parameters true [("a".toList, "TRUE".toList), ("b".toList, "'='".toList)]).result =
        .ok [("a".toList, ⟨.scalar .bool, .bool true⟩), ("b".toList, ⟨.scalar .string, .string ['=']⟩)] ∧
      entries ["x=1".toList, " \t= 2".toList, "y".toList] = .error (.nameless " \t= 2".toList) := by
  have read : entries ["a =1 ".toList, "b='='".toList, "\na= TRUE\u3000".toList] =
      .ok [("a".toList, "TRUE".toList), ("b".toList, "'='".toList)] :=
    eq_ok_of_toOption (by decide +kernel)
  have built : (parameters true [("a".toList, "1 ".toList), ("b".toList, "'='".toList),
      ("a".toList, " TRUE\u3000".toList)]).result =
        .ok [("a".toList, ⟨.scalar .bool, .bool true⟩), ("b".toList, ⟨.scalar .string, .string ['=']⟩)] :=
    eq_ok_of_toOption (by decide +kernel)
  have splits : List.Forall₂ SplitsInto ["a =1 ".toList, "b='='".toList, "\na= TRUE\u3000".toList]
      [("a".toList, "1 ".toList), ("b".toList, "'='".toList), ("a".toList, " TRUE\u3000".toList)] :=
    .cons ⟨"a ".toList, rfl, by decide, by decide⟩ (.cons ⟨"b".toList, rfl, by decide, by decide⟩
      (.cons ⟨"\na".toList, rfl, by decide, by decide⟩ .nil))
  constructor
  · obtain ⟨pairs, _, unique, builds⟩ := (entries_parameters true _).2 _ read
    exact builds _ (unique _ splits ▸ built)
  · refine ((entries_parameters true _).1 _).mpr ⟨["x=1".toList], _, ["y".toList], rfl, ?_, ?_, ?_⟩
    · have whole : " \t= 2".toList = " \t".toList ++ '=' :: " 2".toList := rfl
      exact .nameless whole (by decide)
    · exact ⟨"Missing parameter name in '".toList, ['\x27'], rfl⟩
    · rintro earlier member other faulty
      rw [List.mem_singleton.mp member] at faulty
      cases faulty with
      | unseparated none => exact none (by decide)
      | @nameless blanks code whole blank =>
          cases blanks with
          | nil => cases (List.cons_eq_cons.mp whole).1
          | cons letter blanks =>
              obtain ⟨rfl, _⟩ := List.cons_eq_cons.mp whole
              cases blank

end Run

end ParamCodec
