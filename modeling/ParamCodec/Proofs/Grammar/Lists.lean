import ParamCodec.Proofs.Grammar.Word

namespace ParamCodec.Grammar

variable {α : Type}

/-- What comes next matters only for the result of the first step. -/
theorem bind_congr_ok {ε β : Type} {first : Except ε α} {next other : α → Except ε β}
    (same : ∀ value, first = .ok value → next value = other value) :
    (first >>= next) = (first >>= other) := by
  cases first with
  | error failure => rfl
  | ok value => exact same value rfl

/-- What stands behind a text that is not empty is a proper end. -/
theorem properEnd_append {name : Text} (rest : Text) (stands : name ≠ []) :
    ProperEnd rest (name ++ rest) :=
  ⟨List.suffix_append name rest, by simpa using List.length_pos_iff.mpr stands⟩

/-- A reader takes at least one letter and leaves an end of its source. -/
def Consumes (reader : Reader α) : Prop :=
  ∀ source value rest, reader source = .ok (value, rest) → ProperEnd rest source

/-- A reader that always takes something reads nothing from the empty source. -/
theorem Consumes.stands {reader : Reader α} (consumes : Consumes reader) {source rest : Text}
    {value : α} (read : reader source = .ok (value, rest)) : source ≠ [] :=
  (consumes _ _ _ read).stands

/-- Items with commas between them up to the closing letter. -/
inductive Listed (item : Reader α) (close : Char) : Text → List α → Text → Prop
  | last {source after rest : Text} {value : α} (first : item source = .ok (value, after))
      (closes : skipTrivia after = .ok (close :: rest)) : Listed item close source [value] rest
  | more {source after next rest : Text} {value : α} {values : List α}
      (first : item source = .ok (value, after)) (comma : skipTrivia after = .ok (',' :: next))
      (others : Listed item close next values rest) :
      Listed item close source (value :: values) rest

/-- The items of a list up to its closing letter, possibly none. -/
inductive ListedUntil (item : Reader α) (close : Char) (source : Text) : List α → Text → Prop
  | none {rest : Text} (closes : skipTrivia source = .ok (close :: rest)) :
      ListedUntil item close source [] rest
  | some {start rest : Text} {values : List α} (skipped : skipTrivia source = .ok start)
      (opens : startsWith close start = false) (listed : Listed item close start values rest) :
      ListedUntil item close source values rest

/-- The items that are read stand in the source between commas. -/
theorem commaList_sound {item : Reader α} {close : Char} {steps : Nat} {source rest : Text}
    {values : List α} (read : commaList item close steps source = .ok (values, rest)) :
    Listed item close source values rest := by
  induction steps generalizing source values rest with
  | zero => cases read
  | succ steps ih =>
      simp only [commaList, bind_eq_ok_iff] at read
      obtain ⟨⟨value, after⟩, first, skipped, skip, read⟩ := read
      split at read
      · next next =>
        obtain ⟨⟨others, left⟩, tail, same⟩ := bind_eq_ok_iff.mp read
        cases same
        exact .more first skip (ih tail)
      · obtain ⟨left, closes, same⟩ := bind_eq_ok_iff.mp read
        cases same
        exact .last first ((token_eq_ok_iff.mp closes) ▸ skip)

/-- Items between commas are read within as many steps as the source has letters. -/
theorem commaList_complete {item : Reader α} {close : Char} {source rest : Text} {values : List α}
    (consumes : Consumes item) (noComma : close ≠ ',') (listed : Listed item close source values rest) :
    ∀ steps : Nat, source.length < steps →
      commaList item close steps source = .ok (values, rest) := by
  induction listed with
  | last first closes =>
      intro steps enough
      obtain ⟨steps, rfl⟩ := Nat.exists_eq_add_one_of_ne_zero (Nat.ne_zero_of_lt enough)
      simp [commaList, first, closes, token_eq_ok_iff.mpr, noComma]
  | @more source after next rest value values first comma _ ih =>
      intro steps enough
      obtain ⟨steps, rfl⟩ := Nat.exists_eq_add_one_of_ne_zero (Nat.ne_zero_of_lt enough)
      have shorter := (consumes _ _ _ first).2
      have skips := (skipTrivia_properEnd comma).2
      have tail := ih steps (by omega)
      simp [commaList, first, comma, tail]

/-- A list of items is read exactly where its items stand between commas. -/
theorem commaList_eq_ok_iff {item : Reader α} {close : Char} {source rest : Text} {values : List α}
    (consumes : Consumes item) (noComma : close ≠ ',') :
    commaList item close (source.length + 1) source = .ok (values, rest) ↔
      Listed item close source values rest :=
  ⟨commaList_sound, fun listed => commaList_complete consumes noComma listed _ (Nat.lt_succ_self _)⟩

/-- A list up to its closing letter is read exactly where it stands, a comma at its end included. -/
theorem listUntil_eq_ok_iff {item : Reader α} {close : Char} {source rest : Text} {values : List α}
    (consumes : Consumes item) (noComma : close ≠ ',') :
    listUntil item close source = .ok (values, rest) ↔
      ListedUntil item close source values rest := by
  constructor
  · intro read
    obtain ⟨start, skipped, read⟩ := bind_eq_ok_iff.mp read
    split at read
    · next opens =>
      obtain ⟨after, rfl⟩ := startsWith_iff.mp opens
      cases read
      exact .none skipped
    · next opens =>
      exact .some skipped (Bool.eq_false_iff.mpr opens) (commaList_sound read)
  · intro listed
    cases listed with
    | none closes => simp [listUntil, closes, startsWith]
    | some skipped opens listed =>
        simp only [listUntil, skipped, ok_bind, opens, Bool.false_eq_true, if_false]
        exact (commaList_eq_ok_iff consumes noComma).mpr listed

/-- A list takes at least one letter when its items do. -/
theorem Listed.properEnd {item : Reader α} {close : Char} {source rest : Text} {values : List α}
    (consumes : Consumes item) (listed : Listed item close source values rest) :
    ProperEnd rest source := by
  induction listed with
  | last first closes => exact (skipTrivia_properEnd closes).trans (consumes _ _ _ first)
  | more first comma _ ih =>
      exact ih.trans ((skipTrivia_properEnd comma).trans (consumes _ _ _ first))

/-- Behind a list stands a proper end of its source. -/
theorem ListedUntil.properEnd {item : Reader α} {close : Char} {source rest : Text}
    {values : List α} (consumes : Consumes item)
    (listed : ListedUntil item close source values rest) : ProperEnd rest source := by
  cases listed with
  | none closes => exact skipTrivia_properEnd closes
  | some skipped _ listed =>
      exact (listed.properEnd consumes).trans_suffix (skipTrivia_suffix skipped)

/-- A list between commas has an item. -/
theorem Listed.values_stand {item : Reader α} {close : Char} {source rest : Text} {values : List α}
    (listed : Listed item close source values rest) : values ≠ [] := by
  cases listed <;> simp

/-- Every value of a list was read as an item. -/
theorem Listed.values_read {item : Reader α} {close : Char} {source rest : Text} {values : List α}
    (listed : Listed item close source values rest) :
    ∀ value ∈ values, ∃ start after, item start = .ok (value, after) := by
  induction listed with
  | last first _ => simpa using ⟨_, _, first⟩
  | more first _ _ ih => exact List.forall_mem_cons.mpr ⟨⟨_, _, first⟩, ih⟩

/-- Each value of a list was read by the reader of its items. -/
theorem ListedUntil.values_read {item : Reader α} {close : Char} {source rest : Text}
    {values : List α} (listed : ListedUntil item close source values rest) :
    ∀ value ∈ values, ∃ start after, item start = .ok (value, after) := by
  cases listed with
  | none _ => simp
  | some _ _ listed => exact listed.values_read

/-- The items of a list are read inside its source. -/
theorem Listed.values_within {item : Reader α} {close : Char} {source rest : Text} {values : List α}
    (consumes : Consumes item) (listed : Listed item close source values rest) :
    ∀ value ∈ values, ∃ start after, start <:+ source ∧ item start = .ok (value, after) := by
  induction listed with
  | last first _ => simpa using ⟨_, List.suffix_rfl, _, first⟩
  | more first comma _ ih =>
      refine List.forall_mem_cons.mpr ⟨⟨_, _, List.suffix_rfl, first⟩, fun value member => ?_⟩
      obtain ⟨start, after, inside, read⟩ := ih value member
      have behind := (skipTrivia_properEnd comma).trans (consumes _ _ _ first)
      exact ⟨start, after, inside.trans behind.1, read⟩

/-- Each value of a list was read from an end of the source of the list. -/
theorem ListedUntil.values_within {item : Reader α} {close : Char} {source rest : Text}
    {values : List α} (consumes : Consumes item)
    (listed : ListedUntil item close source values rest) :
    ∀ value ∈ values, ∃ start after, start <:+ source ∧ item start = .ok (value, after) := by
  cases listed with
  | none _ => simp
  | some skipped _ listed =>
      intro value member
      obtain ⟨start, after, inside, read⟩ := listed.values_within consumes value member
      exact ⟨start, after, inside.trans (skipTrivia_suffix skipped), read⟩

/-- A list depends only on how its items are read from sources no longer than its own. -/
theorem commaList_congr {item other : Reader α} {close : Char} (consumes : Consumes other)
    {steps : Nat} {source : Text}
    (same : ∀ start : Text, start.length ≤ source.length → item start = other start) :
    commaList item close steps source = commaList other close steps source := by
  induction steps generalizing source with
  | zero => rfl
  | succ steps ih =>
      simp only [commaList]
      rw [same source le_rfl]
      refine bind_congr_ok fun ⟨value, after⟩ first => bind_congr_ok fun next skip => ?_
      have shorter := (consumes _ _ _ first).2
      have skips := (skipTrivia_suffix skip).length_le
      split
      · next next =>
        simp only [List.length_cons] at shorter skips
        rw [ih fun start short => same start (by omega)]
      · rfl

/-- A list depends only on what its items are on sources that are not longer. -/
theorem listUntil_congr {item other : Reader α} {close : Char} (consumes : Consumes other)
    {source : Text}
    (same : ∀ start : Text, start.length ≤ source.length → item start = other start) :
    listUntil item close source = listUntil other close source := by
  refine bind_congr_ok fun start skip => ?_
  have skips := (skipTrivia_suffix skip).length_le
  rw [commaList_congr consumes fun next short => same next (short.trans skips)]

/-- Levels of a recursion agree above the length of the source, when each level depends on the one below
only in shorter sources. -/
theorem levels_eq_of_congr {ρ : Type} {outer : (Text → ρ) → Text → ρ} {levels : Nat → Text → ρ}
    (step : ∀ depth source, levels (depth + 1) source = outer (levels depth) source)
    (congr : ∀ depth other source,
      (∀ start : Text, start.length < source.length → other start = levels depth start) →
        outer other source = outer (levels depth) source)
    {depth : Nat} {source : Text} (deep : source.length < depth) :
    levels depth source = levels (source.length + 1) source := by
  induction depth using Nat.strong_induction_on generalizing source with
  | _ depth ih =>
      obtain ⟨depth, rfl⟩ := Nat.exists_eq_add_one_of_ne_zero (Nat.ne_zero_of_lt deep)
      rw [step, step]
      apply congr
      intro start shorter
      rw [ih depth (Nat.lt_succ_self _) (by omega)]
      -- The level that suffices for the source is the one below, or the induction reaches it.
      by_cases equal : source.length = depth
      · rw [equal, ih depth (Nat.lt_succ_self _) (by omega)]
      · rw [ih source.length (by omega) shorter]

/-- Each level reads what it finds inside by the level below, and depends on it only in shorter
sources. The lowest level reads nothing. -/
structure Nests (outer : Reader α → Reader α) (levels : Nat → Reader α) : Prop where
  bottom : ∀ source value rest, levels 0 source ≠ .ok (value, rest)
  step : ∀ depth, levels (depth + 1) = outer (levels depth)
  consumes : ∀ inner, Consumes inner → Consumes (outer inner)
  congr : ∀ inner other source, Consumes other →
    (∀ start : Text, start.length < source.length → inner start = other start) →
      outer inner source = outer other source

section Nesting

variable {outer : Reader α → Reader α} {levels : Nat → Reader α} (nests : Nests outer levels)

include nests

/-- Every level of a nested reader takes something. -/
theorem Nests.levels_consume (depth : Nat) : Consumes (levels depth) := by
  induction depth with
  | zero => exact fun source value rest read => absurd read (nests.bottom source value rest)
  | succ depth ih =>
      rw [nests.step]
      exact nests.consumes _ ih

/-- Levels above the length of the source do not matter. -/
theorem Nests.levels_eq {depth : Nat} {source : Text} (deep : source.length < depth) :
    levels depth source = levels (source.length + 1) source :=
  levels_eq_of_congr (fun depth source => congrFun (nests.step depth) source)
    (fun depth _ _ same => nests.congr _ _ _ (nests.levels_consume depth) same) deep

/-- The level that suffices for a source reads what is inside by the levels that suffice there. -/
theorem Nests.level_eq_outer (source : Text) :
    levels (source.length + 1) source =
      outer (fun start => levels (start.length + 1) start) source := by
  rw [nests.step]
  apply nests.congr
  · exact fun start => nests.levels_consume _ start
  · exact fun start shorter => nests.levels_eq shorter

/-- What each level inherits from the level below holds of everything that is read. -/
theorem Nests.induction {motive : Text → α → Text → Prop}
    (inherits : ∀ inner : Reader α, Consumes inner →
      (∀ source value rest, inner source = .ok (value, rest) → motive source value rest) →
      ∀ source value rest, outer inner source = .ok (value, rest) → motive source value rest)
    (depth : Nat) : ∀ source value rest,
      levels depth source = .ok (value, rest) → motive source value rest := by
  induction depth with
  | zero => exact fun source value rest read => absurd read (nests.bottom source value rest)
  | succ depth ih =>
      rw [nests.step]
      exact inherits _ (nests.levels_consume depth) ih

end Nesting

/-- A reader passes over the trivia in front of what it reads. -/
def SkipsFirst (reader : Reader α) : Prop :=
  ∀ source, reader source = skipTrivia source >>= reader

/-- A reader that starts with skipping trivia reads the same behind them. -/
theorem skipsFirst_of_bind {reader : Reader α} {next : Text → Except Failure (α × Text)}
    (same : ∀ source, reader source = skipTrivia source >>= next) : SkipsFirst reader := by
  intro source
  rw [same source]
  refine bind_congr_ok fun start skipped => ?_
  rw [same start, skipTrivia_idem skipped, ok_bind]

/-- What such a reader reads, it reads behind the trivia. -/
theorem SkipsFirst.start {reader : Reader α} (skips : SkipsFirst reader) {source rest : Text}
    {value : α} (read : reader source = .ok (value, rest)) :
    ∃ start, skipTrivia source = .ok start ∧ reader start = .ok (value, rest) :=
  bind_eq_ok_iff.mp ((skips source).symm.trans read)

/-- A blank in front makes no difference to such a reader. -/
theorem SkipsFirst.blank {reader : Reader α} (skips : SkipsFirst reader) (source : Text) :
    reader (' ' :: source) = reader source := by
  rw [skips (' ' :: source), skips source]
  exact congrArg (· >>= reader) (skip_blank source (by decide))

/-- The text is empty or starts with a mark that an item of a list cannot go on with. -/
def EndsItem (text : Text) : Prop := ∀ letter ∈ text.head?, letter ∈ [',', ']', ')', '>']

/-- The marks that stand behind items end them. -/
theorem endsItem_cons {letter : Char} (rest : Text) (mark : letter ∈ [',', ']', ')', '>']) :
    EndsItem (letter :: rest) := by
  intro found same
  cases same
  exact mark

/-- What ends an item also breaks words. -/
theorem EndsItem.breaks {text : Text} (ends : EndsItem text) : Breaks text := by
  intro letter found
  exact all_of_mem (ends letter found) (by decide)

/-- What ends an item starts with no trivia. -/
theorem EndsItem.skipTrivia {text : Text} (ends : EndsItem text) : skipTrivia text = .ok text := by
  cases text with
  | nil => rfl
  | cons letter text => exact skipTrivia_of_mem (ends letter rfl) text (by decide)

/-- Wherever such an end follows, the text is read as the value and nothing but trivia is left. -/
def Embeds (ends : Text → Prop) (reader : Reader α) (text : Text) (value : α) : Prop :=
  ∀ more, ends more →
    ∃ rest, reader (text ++ more) = .ok (value, rest) ∧ skipTrivia rest = skipTrivia more

/-- Only the first item of a list looks at the beginning of its source. -/
theorem Listed.change {item : Reader α} {close : Char} {source start rest : Text}
    {values : List α} (listed : Listed item close start values rest)
    (same : item source = item start) : Listed item close source values rest := by
  cases listed with
  | last first closes => exact .last (same.trans first) closes
  | more first comma others => exact .more (same.trans first) comma others

/-- Items in front of the closing letter are a list up to that letter when no item starts with it. -/
theorem Listed.until {item : Reader α} {close : Char} {source rest : Text} {values : List α}
    (skips : SkipsFirst item) (listed : Listed item close source values rest)
    (noClose : ∀ more value left, item (close :: more) ≠ .ok (value, left)) :
    ListedUntil item close source values rest := by
  obtain ⟨value, after, first⟩ : ∃ value after, item source = .ok (value, after) := by
    cases listed with
    | last first _ => exact ⟨_, _, first⟩
    | more first _ _ => exact ⟨_, _, first⟩
  obtain ⟨start, skipped, read⟩ := skips.start first
  refine .some skipped ?_ (listed.change (read.trans first.symm))
  refine Bool.eq_false_iff.mpr fun opens => ?_
  obtain ⟨more, rfl⟩ := startsWith_iff.mp opens
  exact noClose _ _ _ read

/-- A text that is read in front of some ends is read in front of fewer. -/
theorem Embeds.mono {ends other : Text → Prop} {reader : Reader α} {text : Text} {value : α}
    (embeds : Embeds ends reader text value) (imp : ∀ more, other more → ends more) :
    Embeds other reader text value :=
  fun more stops => embeds more (imp more stops)

/-- Texts of items with commas between them are a list of the items. -/
theorem Listed.of_embeds {ends : Text → Prop} {item : Reader α} {close : Char} {gap ending more : Text}
    {texts : List Text} {values : List α} (blank : ∀ source, item (gap ++ source) = item source)
    (commaEnds : ∀ text, ends (',' :: text)) (endingEnds : ends ending)
    (closes : skipTrivia ending = .ok (close :: more))
    (embeds : List.Forall₂ (Embeds ends item) texts values) (stands : texts ≠ []) :
    Listed item close (List.intercalate (',' :: gap) texts ++ ending) values more := by
  induction embeds with
  | nil => exact absurd rfl stands
  | @cons text value texts values first others ih =>
      cases others with
      | nil =>
          obtain ⟨rest, read, skipped⟩ := first ending endingEnds
          rw [List.intercalate_singleton]
          exact .last read (skipped.trans closes)
      | @cons second _ texts _ _ _ =>
          have tail := ih (by simp)
          obtain ⟨rest, read, skipped⟩ := first _ (commaEnds (gap ++
            (List.intercalate (',' :: gap) (second :: texts) ++ ending)))
          rw [List.intercalate_cons_cons, List.append_assoc, List.append_assoc]
          exact .more read (skipped.trans (skipTrivia_solid _ (by decide))) (tail.change (blank _))

/-- The items of a list in brackets, possibly none, are read from their texts. -/
theorem ListedUntil.of_embeds {ends : Text → Prop} {item : Reader α} {close : Char}
    {gap ending more : Text} {texts : List Text} {values : List α} (skips : SkipsFirst item)
    (blank : ∀ source, item (gap ++ source) = item source)
    (noClose : ∀ more value left, item (close :: more) ≠ .ok (value, left))
    (commaEnds : ∀ text, ends (',' :: text)) (endingEnds : ends ending)
    (closes : skipTrivia ending = .ok (close :: more))
    (embeds : List.Forall₂ (Embeds ends item) texts values) :
    ListedUntil item close (List.intercalate (',' :: gap) texts ++ ending) values more := by
  cases embeds with
  | nil => exact .none closes
  | cons first others =>
      have listed := Listed.of_embeds blank commaEnds endingEnds closes (.cons first others) (by simp)
      exact listed.until skips noClose

end ParamCodec.Grammar
