import ParamCodec.Proofs.Grammar.QuotedUnits

namespace ParamCodec.Grammar.Quoted

/-- A letter that ends a line. -/
def EndsLine (letter : Char) : Prop := letter ∈ ['\n', '\r']

instance : DecidablePred EndsLine := fun letter => inferInstanceAs (Decidable (letter ∈ ['\n', '\r']))

/-- Lines end in a text only behind the backslashes of a raw literal. -/
def Guarded (raw : Bool) (text : Text) : Prop :=
  ∀ before letter after, text = before ++ letter :: after → EndsLine letter →
    raw = true ∧ ['\x5c'] <:+ before

variable {raw : Bool} {text other : Text}

/-- In a text without line ends there is no line end to guard. -/
theorem guarded_of_forall (inLine : ∀ letter ∈ text, ¬ EndsLine letter) : Guarded raw text := by
  rintro before letter after rfl ends
  exact absurd ends (inLine letter (by simp))

/-- Guarded texts stay guarded one behind the other. -/
theorem Guarded.append (first : Guarded raw text) (second : Guarded raw other) :
    Guarded raw (text ++ other) := by
  intro before letter after same ends
  rcases List.append_eq_append_iff.mp same with ⟨front, rfl, rfl⟩ | ⟨left, rfl, cut⟩
  · obtain ⟨isRaw, backslash⟩ := second front letter after rfl ends
    exact ⟨isRaw, backslash.trans (List.suffix_append text front)⟩
  · cases left with
    | nil =>
        obtain ⟨isRaw, backslash⟩ := second [] letter after cut.symm ends
        exact absurd (List.suffix_nil.mp backslash) (List.cons_ne_nil _ _)
    | cons found left =>
        obtain ⟨rfl, _⟩ := List.cons_eq_cons.mp cut
        exact first before letter left rfl ends

/-- In a raw literal a backslash guards whatever follows it. -/
theorem guarded_pair (next : Char) : Guarded true ['\x5c', next] := by
  intro before letter after same ends
  cases before with
  | nil =>
      obtain ⟨rfl, _⟩ := List.cons_eq_cons.mp same
      exact absurd ends (by decide)
  | cons first before =>
      obtain ⟨rfl, same⟩ := List.cons_eq_cons.mp same
      cases before with
      | nil => exact ⟨rfl, List.suffix_rfl⟩
      | cons second before => simp at same

/-- A digit ends no line. -/
theorem not_endsLine_of_digit {radix : Nat} {letter : Char}
    (isDigit : (Text.digitValue? radix letter).isSome = true) : ¬ EndsLine letter := by
  intro ends
  have noDigit : Text.digitValue? radix letter = none := by
    simp only [EndsLine, List.mem_cons, List.not_mem_nil, or_false] at ends
    rcases ends with rfl | rfl <;> rfl
  rw [noDigit] at isDigit
  cases isDigit

/-- The digits of an escape end no line. -/
theorem IsNumeral.inLine {radix count value : Nat} {digits : Text}
    (numeral : IsNumeral radix count digits value) : ∀ letter ∈ digits, ¬ EndsLine letter :=
  fun letter member => not_endsLine_of_digit (numeral.valid letter member)

/-- No escape goes over the end of a line. -/
theorem EscapeForm.inLine {bytes : List UInt8} (form : EscapeForm text bytes) :
    ∀ letter ∈ text, ¬ EndsLine letter := by
  cases form with
  | letter listed =>
      have others : ∀ pair ∈ letterEscapes, pair.1 ∉ ['\n', '\r'] := by decide
      simpa [EndsLine] using others _ listed
  | hexadecimal marked numeral =>
      refine List.forall_mem_cons.mpr ⟨?_, numeral.inLine⟩
      rcases marked with rfl | rfl <;> decide
  | octal numeral _ => exact numeral.inLine
  | four numeral => exact List.forall_mem_cons.mpr ⟨by decide, numeral.inLine⟩
  | eight numeral => exact List.forall_mem_cons.mpr ⟨by decide, numeral.inLine⟩

/-- Between the quotes of one character a unit holds the end of a line only behind a raw backslash. -/
theorem unit_guarded {opening : Opening} (single : opening.triple = false) {source after : Text}
    {bytes : List UInt8} (read : unit opening source = .ok (bytes, after)) :
    ∃ taken, source = taken ++ after ∧ Guarded opening.raw taken := by
  cases isRaw : opening.raw with
  | false =>
      obtain ⟨taken, rfl, form⟩ := (unit_eq_ok_iff isRaw).mp read
      refine ⟨taken, rfl, guarded_of_forall ?_⟩
      rw [single] at form
      cases form with
      | letter _ inLine => simpa [EndsLine] using inLine
      | escape form => exact List.forall_mem_cons.mpr ⟨by decide, form.inLine⟩
  | true =>
      cases source with
      | nil => cases read
      | cons letter source =>
          simp only [unit, isRaw, single, if_true, Bool.not_false, Bool.true_and, Bool.or_eq_true,
            decide_eq_true_eq] at read
          split_ifs at read with backslash outside
          · subst backslash
            cases source with
            | nil =>
                cases read
                exact ⟨['\x5c'], rfl, guarded_of_forall (by simp [EndsLine])⟩
            | cons next source =>
                cases read
                exact ⟨['\x5c', next], rfl, guarded_pair next⟩
          · cases read
            exact ⟨[letter], rfl, guarded_of_forall (by simpa [EndsLine] using outside)⟩

/-- A quote ends no line. -/
theorem not_endsLine_of_mark {mark : Char} (isMark : mark ∈ ['\x27', '\x22']) : ¬ EndsLine mark := by
  have apart : ['\x27', '\x22'].any ['\n', '\r'].contains = false := by decide
  exact not_mem_of_mem isMark apart

/-- Between single quotes lines end only behind the backslashes of a raw literal. -/
theorem BodyForm.guarded {opening : Opening} (single : opening.triple = false)
    (isMark : opening.mark ∈ ['\x27', '\x22']) {inside rest : Text} {content : List UInt8}
    (form : BodyForm opening inside content rest) :
    ∃ taken, inside = taken ++ rest ∧ Guarded opening.raw taken := by
  induction form with
  | closed =>
      refine ⟨opening.closing, rfl, guarded_of_forall ?_⟩
      simpa [Opening.closing, single] using not_endsLine_of_mark isMark
  | unit _ first _ ih =>
      obtain ⟨between, rfl, others⟩ := ih
      obtain ⟨taken, rfl, guarded⟩ := unit_guarded single first
      exact ⟨taken ++ between, (List.append_assoc ..).symm, guarded.append others⟩

/-- The letters of a prefix end no line. -/
theorem Letters.inLine {bytes : Bool} (form : Letters raw bytes text) :
    ∀ letter ∈ text, ¬ EndsLine letter := by
  intro letter member ends
  have part := List.all_eq_true.mp form.isWordPart letter member
  rw [none_of_mem ends (by decide : ['\n', '\r'].any Identifier.isWordPart = false)] at part
  cases part

/-- In the text of a literal in quotes of one character lines end only behind raw backslashes. -/
theorem literal_guarded {opening : Opening} {source inside consumed rest : Text} {value : Literal}
    (opens : Opens opening source inside) (single : opening.triple = false)
    (read : literal source = .ok (value, rest)) (whole : source = consumed ++ rest) :
    Guarded opening.raw consumed := by
  obtain ⟨opening', inside', content, opens', body, _⟩ := literal_eq_ok_iff_opens.mp read
  obtain ⟨rfl, rfl⟩ := opens.unique opens'
  obtain ⟨taken, start, same, letters, isMark, quoted⟩ := opens
  obtain ⟨between, rfl, guarded⟩ := body.guarded single isMark
  rw [single] at quoted
  cases quoted with
  | single _ =>
      have parts : consumed = taken ++ (opening.mark :: between) :=
        List.append_cancel_right (whole.symm.trans (same.trans (by simp)))
      have mark : Guarded opening.raw [opening.mark] :=
        guarded_of_forall (by simpa using not_endsLine_of_mark isMark)
      rw [parts]
      exact (guarded_of_forall letters.inLine).append (mark.append guarded)

/-- A literal in quotes of one character stays on its line exactly when it is not raw or no line ends
directly behind a backslash in it. -/
theorem literal_oneLine_iff {opening : Opening} {source inside consumed rest : Text} {value : Literal}
    (opens : Opens opening source inside) (single : opening.triple = false)
    (read : literal source = .ok (value, rest)) (whole : source = consumed ++ rest) :
    (∀ letter ∈ consumed, ¬ EndsLine letter) ↔
      (opening.raw = true → ∀ letter, EndsLine letter → ¬ ['\x5c', letter] <:+: consumed) := by
  constructor
  · rintro inLine _ letter ends ⟨before, after, rfl⟩
    exact inLine letter (by simp) ends
  · intro noPair letter member ends
    obtain ⟨before, after, rfl⟩ := List.append_of_mem member
    obtain ⟨isRaw, front, rfl⟩ := literal_guarded opens single read whole before letter after rfl ends
    exact noPair isRaw letter ends ⟨front, after, by simp⟩

/-- An escaped line feed stays on its line, a carriage return behind a raw backslash does not. -/
theorem literal_oneLine_iff_escaped :
    (∀ letter ∈ "'\x5cn'".toList, ¬ EndsLine letter) ∧
      ¬ ∀ letter ∈ "bR'\x5c\r'".toList, ¬ EndsLine letter := by
  have opens : Opens ⟨false, false, '\x27', false⟩ "'\x5cn'+".toList "\x5cn'+".toList :=
    ⟨[], _, rfl, .none, by decide, .single (by decide)⟩
  have opensRaw : Opens ⟨true, true, '\x27', false⟩ "bR'\x5c\r'+".toList "\x5c\r'+".toList :=
    ⟨['b', 'R'], _, rfl, .bytesRaw (by decide) (by decide), by decide, .single (by decide)⟩
  have escaped : literal "'\x5cn'+".toList = .ok (.string ['\n'], ['+']) := by rfl
  have raw : literal "bR'\x5c\r'+".toList = .ok (.bytes [0x5C, 0x0D], ['+']) := by rfl
  refine ⟨(literal_oneLine_iff opens rfl escaped rfl).mpr nofun, fun inLine => ?_⟩
  exact (literal_oneLine_iff opensRaw rfl raw rfl).mp inLine rfl '\r' (by decide)
    ⟨"bR'".toList, ['\x27'], rfl⟩

/-- A raw literal in single quotes goes over the end of a line. -/
theorem literal_rawLineEnd :
    Opens ⟨true, false, '\x27', false⟩ "r'a\x5c\nb'".toList "a\x5c\nb'".toList ∧
      literal "r'a\x5c\nb'".toList = .ok (.string "a\x5c\nb".toList, []) ∧
      ¬ ∀ letter ∈ "r'a\x5c\nb'".toList, ¬ EndsLine letter :=
  ⟨⟨['r'], _, rfl, .raw (by decide), by decide, .single (by decide)⟩, by rfl,
    fun inLine => inLine '\n' (by decide) (by decide)⟩

end ParamCodec.Grammar.Quoted
