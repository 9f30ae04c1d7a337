import ParamCodec.Proofs.Grammar.Composition
import ParamCodec.Proofs.Grammar.LikeExpressions

namespace ParamCodec.Grammar

variable {α : Type} {blanks : Text}

/-- No letter of a word is a blank. -/
theorem isBlank_of_isWordPart {letter : Char} (part : Identifier.isWordPart letter = true) :
    Text.isBlank letter = false :=
  (Bool.or_eq_false_iff.mp (isWordPart_solid part)).1

/-- The text does not end with a blank. -/
def EndsSolid (text : Text) : Prop := ∀ letter ∈ text.getLast?, Text.isBlank letter = false

/-- Letters of a kind without blanks do not end with one. -/
theorem endsSolid_of_all {kind : Char → Bool} {text : Text} (all : text.all kind = true)
    (solid : ∀ letter, kind letter = true → Text.isBlank letter = false) : EndsSolid text :=
  fun letter last => solid letter (List.all_eq_true.mp all letter (List.mem_of_getLast? last))

/-- Digits do not end with a blank. -/
theorem digits_endsSolid {digits : Text} (all : digits.all Char.isDigit = true) : EndsSolid digits :=
  endsSolid_of_all all fun _ digit => isBlank_of_isWordPart (isWordPart_of_isDigit digit)

/-- A text does not end with a blank when its last letter is none. -/
theorem endsSolid_concat (text : Text) {letter : Char} (solid : Text.isBlank letter = false) :
    EndsSolid (text ++ [letter]) := by
  intro last found
  rw [List.getLast?_concat] at found
  cases found
  exact solid

/-- A run that stops in front of two texts stops in front of the first. -/
theorem EndsRun.left {kind : Char → Bool} {first second : Text}
    (ends : EndsRun kind (first ++ second)) : EndsRun kind first := by
  cases first with
  | nil => exact fun _ found => nomatch found
  | cons letter first => exact ends

/-- Two texts do not end with a blank when neither does. -/
theorem EndsSolid.append {first second : Text} (firstEnds : EndsSolid first)
    (secondEnds : EndsSolid second) : EndsSolid (first ++ second) := by
  cases second using List.reverseRecOn with
  | nil => rwa [List.append_nil]
  | append_singleton second letter =>
      rw [← List.append_assoc]
      exact endsSolid_concat _ (secondEnds letter List.getLast?_concat)

/-- A source with blanks behind it; where nothing is left of the source, the blanks may be gone. -/
def Pads (blanks source other : Text) : Prop := other = source ++ blanks ∨ source = [] ∧ other = []

/-- Readings of a source with and without blanks behind it. -/
def padded (blanks : Text) : Likeness where
  texts := Pads blanks
  words := Eq
  failures := fun _ _ => True

/-- A reader that reads the same with and without the blanks reads padded sources alike. -/
theorem reads_padded {reader : Reader α} (empty : ∃ failure, reader [] = .error failure)
    (forth : ∀ source value rest, reader source = .ok (value, rest) →
      reader (source ++ blanks) = .ok (value, rest ++ blanks))
    (back : ∀ source value rest, reader (source ++ blanks) = .ok (value, rest) →
      ∃ left, reader source = .ok (value, left)) : (padded blanks).Reads Eq reader := by
  rintro source _ (rfl | ⟨rfl, rfl⟩)
  · cases read : reader source with
    | ok pair =>
        obtain ⟨value, rest⟩ := pair
        rw [forth _ _ _ read]
        exact .ok ⟨rfl, .inl rfl⟩
    | error failure =>
        cases found : reader (source ++ blanks) with
        | error other => exact .error trivial
        | ok pair =>
            obtain ⟨left, again⟩ := back _ _ _ found
            cases read.symm.trans again
  · obtain ⟨failure, failed⟩ := empty
    rw [failed]
    exact .error trivial

section Blanks

variable (blank : blanks.all Text.isBlank = true)

include blank

/-- Blanks break words. -/
theorem breaks_of_blank : Breaks blanks := by
  intro letter found
  exact isBreak_of_isBlank (List.all_eq_true.mp blank letter (List.mem_of_mem_head? found))

/-- No other letter is one of the blanks. -/
theorem not_mem_blanks {letter : Char} (solid : Text.isBlank letter = false) : letter ∉ blanks := by
  intro inside
  rw [List.all_eq_true.mp blank letter inside] at solid
  cases solid

/-- What ends before the blanks lies in front of all of them. -/
theorem taken_before_blanks {taken rest source : Text} (solid : EndsSolid taken)
    (same : source ++ blanks = taken ++ rest) :
    ∃ left, source = taken ++ left ∧ rest = left ++ blanks := by
  rcases List.append_eq_append_iff.mp same with ⟨more, rfl, rfl⟩ | ⟨left, rfl, rfl⟩
  · cases more using List.reverseRecOn with
    | nil => exact ⟨[], by simp, rfl⟩
    | append_singleton more letter =>
        rw [← List.append_assoc] at solid
        exact absurd (by simp) (not_mem_blanks blank (solid letter List.getLast?_concat))
  · exact ⟨left, rfl, rfl⟩

/-- A word that is read with blanks behind the source is read without them. -/
theorem word_unpadded {source name rest : Text} (read : word (source ++ blanks) = .ok (name, rest)) :
    ∃ left, word source = .ok (name, left) := by
  obtain ⟨same, isName, ends⟩ := word_eq_ok_iff.mp read
  have solid := endsSolid_of_all (isWordPart_of_isWord isName) fun _ => isBlank_of_isWordPart
  obtain ⟨left, rfl, rfl⟩ := taken_before_blanks blank solid same
  exact ⟨left, word_eq_ok_iff.mpr ⟨rfl, isName, ends.left⟩⟩

/-- A name that is read with blanks behind the source is read without them. -/
theorem identifier_unpadded {source rest : Text} {name : Identifier}
    (read : identifier (source ++ blanks) = .ok (name, rest)) :
    ∃ left, identifier source = .ok (name, left) := by
  obtain ⟨same, valid, ends⟩ := identifier_eq_ok_iff.mp read
  have solid : EndsSolid name.sql := by
    obtain ⟨name, quoted⟩ := name
    cases quoted with
    | true =>
        rw [sql_of_quoted (Identifier.isValid_quoted.mp valid).2]
        exact endsSolid_concat _ (by decide)
    | false =>
        rw [sql_eq_name rfl]
        exact endsSolid_of_all (isWordPart_of_isWord valid) fun _ => isBlank_of_isWordPart
  obtain ⟨left, rfl, rfl⟩ := taken_before_blanks blank solid same
  exact ⟨left, identifier_eq_ok_iff.mpr ⟨rfl, valid, fun plain => (ends plain).left⟩⟩

/-- A length that is read with blanks behind the source is read without them. -/
theorem typeLength_unpadded {source rest : Text} {length : TypeLength}
    (read : typeLength (source ++ blanks) = .ok (length, rest)) :
    ∃ left, typeLength source = .ok (length, left) := by
  cases typeLength_eq_ok_iff.mp read with
  | maximum keyword =>
      rw [afterKeyword?_more (breaks_of_blank blank)] at keyword
      obtain ⟨left, found, _⟩ := Option.map_eq_some_iff.mp keyword
      exact ⟨left, typeLength_eq_ok_iff.mpr (.maximum found)⟩
  | fixed noKeyword same stands all ends small =>
      rw [afterKeyword?_more (breaks_of_blank blank), Option.map_eq_none_iff] at noKeyword
      obtain ⟨left, rfl, rfl⟩ := taken_before_blanks blank (digits_endsSolid all) same
      exact ⟨left, typeLength_eq_ok_iff.mpr (.fixed noKeyword rfl stands all ends.left small)⟩

end Blanks

/-- A letter that starts a number is no blank. -/
theorem isBlank_of_isNumberStart {letter : Char} (starts : isNumberStart letter = true) :
    Text.isBlank letter = false := by
  simp only [isNumberStart, Bool.or_eq_true, beq_iff_eq] at starts
  rcases starts with ((digit | rfl) | rfl) | rfl
  · exact isBlank_of_isWordPart (isWordPart_of_isDigit digit)
  all_goals decide

namespace Number

/-- A sign does not end with a blank. -/
theorem IsSign.endsSolid {sign : Text} (signed : IsSign sign) : EndsSolid sign := by
  rcases signed with rfl | rfl | rfl
  · exact fun _ found => nomatch found
  · exact endsSolid_concat [] (by decide)
  · exact endsSolid_concat [] (by decide)

/-- A number ends with a digit, or with a point. -/
theorem Lexeme.endsSolid {lexeme : Text} {value : Literal} (form : Lexeme lexeme value) :
    EndsSolid lexeme := by
  cases form with
  | @hexadecimal sign digits mark signed marked stands all =>
      have digitsEnd := endsSolid_of_all all fun _ digit =>
        isBlank_of_isWordPart (isWordPart_of_isHexDigit digit)
      have markEnds : EndsSolid ['0', mark] :=
        endsSolid_concat ['0'] (by rcases marked with rfl | rfl <;> decide)
      exact signed.endsSolid.append (markEnds.append digitsEnd)
  | @decimal sign whole places power signed all stands isPlaces isPower =>
      have placesEnd : EndsSolid places := by
        rcases isPlaces with rfl | ⟨digits, rfl, digitsAll, _⟩
        · exact fun _ found => nomatch found
        · have pointEnds : EndsSolid ['.'] := endsSolid_concat [] (by decide)
          exact pointEnds.append (digits_endsSolid digitsAll)
      have powerEnds : EndsSolid power := by
        rcases isPower with rfl | ⟨mark, sign, digits, rfl, marked, signed, _, digitsAll⟩
        · exact fun _ found => nomatch found
        · have markEnds : EndsSolid [mark] :=
            endsSolid_concat [] (by rcases marked with rfl | rfl <;> decide)
          exact (markEnds.append signed.endsSolid).append (digits_endsSolid digitsAll)
      exact ((signed.endsSolid.append (digits_endsSolid all)).append placesEnd).append powerEnds

/-- A number that is read with blanks behind the source is read without them. -/
theorem literal_unpadded (blank : blanks.all Text.isBlank = true) {source rest : Text} {value : Literal}
    (read : literal (source ++ blanks) = .ok (value, rest)) :
    ∃ left, literal source = .ok (value, left) := by
  obtain ⟨lexeme, same, form, ends⟩ := literal_eq_ok_iff.mp read
  obtain ⟨left, rfl, rfl⟩ := taken_before_blanks blank form.endsSolid same
  exact ⟨left, literal_eq_ok_iff.mpr ⟨lexeme, rfl, form, ends.left⟩⟩

end Number

namespace Quoted

theorem isBlank_of_mark {mark : Char} (isMark : mark ∈ ['\x27', '\x22']) : Text.isBlank mark = false :=
  none_of_mem isMark (by decide)

/-- The closing quotes do not end with a blank. -/
theorem closing_endsSolid {opening : Opening} (isMark : opening.mark ∈ ['\x27', '\x22']) :
    EndsSolid opening.closing := by
  have solid := isBlank_of_mark isMark
  unfold Opening.closing
  split
  · exact endsSolid_concat [opening.mark, opening.mark] solid
  · exact endsSolid_concat [] solid

/-- A body holds the quote that closes it. -/
theorem BodyForm.mark_mem {opening : Opening} {source rest : Text} {content : List UInt8}
    (form : BodyForm opening source content rest) : opening.mark ∈ source := by
  induction form with
  | closed =>
      unfold Opening.closing
      split <;> simp
  | unit _ first _ ih => exact (unit_consumes opening _ _ _ first).1.subset ih

/-- A body is closed in front of the blanks behind it. -/
theorem BodyForm.unpadded (blank : blanks.all Text.isBlank = true) {opening : Opening}
    (isMark : opening.mark ∈ ['\x27', '\x22']) {text rest : Text} {content : List UInt8}
    (form : BodyForm opening text content rest) :
    ∀ source, text = source ++ blanks → ∃ left, BodyForm opening source content left := by
  induction form with
  | closed =>
      intro source same
      obtain ⟨left, rfl, _⟩ := taken_before_blanks blank (closing_endsSolid isMark) same.symm
      exact ⟨left, .closed⟩
  | @unit text after rest bytes more opens first others ih =>
      intro source same
      obtain ⟨taken, _, whole, again⟩ := unit_local first
      rcases List.append_eq_append_iff.mp (same.symm.trans whole) with ⟨lost, _, within⟩ | ⟨left, rfl, rfl⟩
      · have marked : opening.mark ∈ blanks := within ▸ List.mem_append_right lost others.mark_mem
        exact absurd marked (not_mem_blanks blank (isBlank_of_mark isMark))
      · obtain ⟨ending, form⟩ := ih left rfl
        refine ⟨ending, .unit (fun starts => opens ?_) (again others.stands left) form⟩
        exact same ▸ starts.trans (List.prefix_append _ blanks)

/-- A quoted literal that is read with blanks behind the source is read without them. -/
theorem literal_unpadded (blank : blanks.all Text.isBlank = true) {source rest : Text} {value : Literal}
    (read : literal (source ++ blanks) = .ok (value, rest)) :
    ∃ left, literal source = .ok (value, left) := by
  have breaks := breaks_of_blank blank
  obtain ⟨opening, inside, content, starts, form, decodes⟩ := literal_eq_ok_iff.mp read
  obtain ⟨_, _, _, _, isMark, _⟩ := opening?_eq_some_iff.mp starts
  have begins : startsLiteral source = true := by
    rw [← startsLiteral_append breaks]
    exact startsLiteral_of_literal read
  obtain ⟨⟨other, within⟩, found⟩ := Option.isSome_iff_exists.mp begins
  obtain ⟨rfl, rfl⟩ := Prod.mk.inj (Option.some.inj (starts.symm.trans (opening?_append breaks found)))
  obtain ⟨left, body⟩ := form.unpadded blank isMark within rfl
  exact ⟨left, literal_eq_ok_iff.mpr ⟨opening, within, content, found, body, decodes⟩⟩

end Quoted

/-- Two states that skip alike; the openings of their comments may differ. -/
inductive SameSkipping : Skipping → Skipping → Prop
  | between : SameSkipping .between .between
  | lineComment : SameSkipping .lineComment .lineComment
  | blockComment (opening other : Text) : SameSkipping (.blockComment opening) (.blockComment other)

/-- Both sources are at their ends. -/
def NothingLeft (rest left : Text) : Prop := rest = [] ∧ left = []

/-- No blank closes a comment. -/
theorem not_closed_by_blanks (blank : blanks.all Text.isBlank = true) {source rest : Text}
    (opened : ∀ more, source ≠ '/' :: more) : source ++ blanks ≠ '/' :: rest := by
  intro closed
  cases source with
  | nil =>
      rw [List.nil_append] at closed
      have inside : '/' ∈ blanks := closed ▸ List.mem_cons_self ..
      exact not_mem_blanks blank (by decide) inside
  | cons letter source =>
      obtain ⟨rfl, _⟩ := List.cons_eq_cons.mp closed
      exact opened source rfl

/-- Blanks behind the source are skipped like its end. -/
theorem skip_blanks (blank : blanks.all Text.isBlank = true) {state other : Skipping}
    (same : SameSkipping state other) :
    Alike (fun _ _ => True) NothingLeft (skip state []) (skip other blanks) := by
  -- A line break among the blanks ends a line comment, so the state changes along the induction.
  induction blanks generalizing state other with
  | nil =>
      cases same with
      | between => exact .ok ⟨rfl, rfl⟩
      | lineComment => exact .ok ⟨rfl, rfl⟩
      | blockComment _ _ => exact .error trivial
  | cons letter blanks ih =>
      rw [List.all_cons, Bool.and_eq_true] at blank
      cases same with
      | between =>
          rw [skip_blank blanks blank.1]
          exact ih blank.2 .between
      | lineComment =>
          rw [skip.eq_def .lineComment (letter :: blanks)]
          dsimp only
          split
          · have between := ih blank.2 .between
            exact between
          · exact ih blank.2 .lineComment
      | blockComment opening other =>
          have goesOn : skip (.blockComment other) (letter :: blanks) = skip (.blockComment other) blanks := by
            rw [skip]
            rintro _ rfl _
            exact absurd blank.1 (by decide)
          rw [goesOn]
          exact ih blank.2 (.blockComment opening other)

/-- Skipping goes through a source alike when there are blanks behind it, unless it stops before. -/
theorem skip_padded (blank : blanks.all Text.isBlank = true) {state other : Skipping}
    (same : SameSkipping state other) (source : Text) :
    (∃ letter rest, skip state source = .ok (letter :: rest)) ∨
      Alike (fun _ _ => True) NothingLeft (skip state source) (skip other (source ++ blanks)) := by
  -- Both scanners go through the same states, but a block comment remembers where it was opened, and
  -- with it the blanks behind the source.
  fun_induction skip state source generalizing other with
  | case1 source ih => cases same; exact ih .lineComment
  | case2 source ih => cases same; exact ih .lineComment
  | case3 source ih => cases same; exact ih (.blockComment _ _)
  | case4 letter source _ _ _ isBlank ih =>
      cases same
      rw [List.cons_append, skip_blank _ isBlank]
      exact ih .between
  | case5 letter source => exact .inl ⟨letter, source, rfl⟩
  | case6 source ih => cases same; exact ih .between
  | case7 letter source inside ih =>
      cases same
      rw [List.cons_append, skip, if_neg inside]
      exact ih .lineComment
  | case8 opening source ih => cases same; exact ih .between
  | case9 opening letter source inside ih =>
      cases same with
      | blockComment _ other =>
          have goesOn : skip (.blockComment other) (letter :: source ++ blanks) =
              skip (.blockComment other) (source ++ blanks) := by
            rw [List.cons_append, skip]
            intro rest star closed
            exact not_closed_by_blanks blank (fun more => inside more star) closed
          rw [goesOn]
          exact ih (.blockComment _ other)
  | case10 opening => exact .inr (skip_blanks blank same)
  | case11 => exact .inr (skip_blanks blank same)
  | case12 => exact .inr (skip_blanks blank same)

/-- Skipping trivia keeps the padding, and leaves nothing of one source where it leaves nothing of the
other. -/
theorem skipTrivia_padded (blank : blanks.all Text.isBlank = true) {source other : Text}
    (same : Pads blanks source other) :
    Alike (fun _ _ => True) (fun rest left => Pads blanks rest left ∧ rest.isEmpty = left.isEmpty)
      (skipTrivia source) (skipTrivia other) := by
  rcases same with rfl | ⟨rfl, rfl⟩
  · rcases skip_padded blank .between source with ⟨letter, rest, stops⟩ | alike
    · have stays : skipTrivia source = .ok (letter :: rest) := stops
      rw [stays, skipTrivia_append stays (List.cons_ne_nil _ _) (breaks_of_blank blank)]
      exact .ok ⟨.inl rfl, rfl⟩
    · exact alike.imp fun _ _ ⟨empty, others⟩ => ⟨.inr ⟨empty, others⟩, by rw [empty, others]⟩
  · exact .ok ⟨.inr ⟨rfl, rfl⟩, rfl⟩

/-- Padded sources start with the same marks. -/
theorem Pads.startsWith (blank : blanks.all Text.isBlank = true) {source other : Text}
    (same : Pads blanks source other) {mark : Char} (isMark : mark ∈ Likeness.marks) :
    startsWith mark source = startsWith mark other := by
  rcases same with rfl | ⟨rfl, rfl⟩
  · cases source with
    | cons letter source => rfl
    | nil =>
        refine (Bool.eq_false_iff.mpr fun starts => ?_).symm
        obtain ⟨rest, rfl⟩ := startsWith_iff.mp starts
        exact not_mem_blanks blank (none_of_mem isMark (by decide)) (List.mem_cons_self ..)
  · rfl

/-- Blanks behind a source keep its marks and its words. -/
theorem padded_keepsWords (blank : blanks.all Text.isBlank = true) : (padded blanks).KeepsWords where
  fails := fun _ _ _ _ => trivial
  startsWith := fun _ _ same _ isMark => same.startsWith blank isMark
  tail := by
    intro source other same mark _ starts
    obtain ⟨rest, rfl⟩ := startsWith_iff.mp starts
    rcases same with rfl | ⟨empty, _⟩
    · exact .inl rfl
    · cases empty
  startsWord := by
    rintro source _ (rfl | ⟨rfl, rfl⟩)
    · exact (startsWord_append (breaks_of_blank blank)).symm
    · rfl
  skips := fun _ _ same => skipTrivia_padded blank same
  keyword := fun _ _ same => same ▸ rfl
  word := reads_padded ⟨_, rfl⟩ (fun _ _ _ read => word_append read (breaks_of_blank blank))
    fun _ _ _ => word_unpadded blank
  identifier := (reads_padded ⟨_, rfl⟩
    (fun _ _ _ read => identifier_append read (breaks_of_blank blank))
    fun _ _ _ => identifier_unpadded blank).imp fun _ _ same => same ▸ ⟨rfl, rfl⟩
  length := reads_padded ⟨_, rfl⟩
    (fun _ _ _ read => typeLength_eq_ok_iff.mpr
      ((typeLength_eq_ok_iff.mp read).append (breaks_of_blank blank)))
    fun _ _ _ => typeLength_unpadded blank

/-- Blanks behind a source keep its literals. -/
theorem padded_keepsLiterals (blank : blanks.all Text.isBlank = true) :
    (padded blanks).KeepsLiterals where
  toKeepsWords := padded_keepsWords blank
  same := fun _ _ same => same
  startsLiteral := by
    rintro source _ (rfl | ⟨rfl, rfl⟩)
    · exact (Quoted.startsLiteral_append (breaks_of_blank blank)).symm
    · rfl
  startsNumber := by
    rintro source _ (rfl | ⟨rfl, rfl⟩)
    · cases source with
      | cons letter source => rfl
      | nil =>
          cases blanks with
          | nil => rfl
          | cons letter blanks =>
              refine (Bool.eq_false_iff.mpr fun starts => ?_).symm
              exact not_mem_blanks blank (isBlank_of_isNumberStart starts) (List.mem_cons_self ..)
    · rfl
  quoted := reads_padded ⟨_, rfl⟩
    (fun _ _ _ => Quoted.literal_append (breaks_of_blank blank))
    fun _ _ _ => Quoted.literal_unpadded blank
  number := reads_padded ⟨_, rfl⟩
    (fun _ _ _ => Number.literal_append (breaks_of_blank blank))
    fun _ _ _ => Number.literal_unpadded blank

/-- Blanks in front of a source are trivia. -/
theorem skipTrivia_behind_blanks (blank : blanks.all Text.isBlank = true) (source : Text) :
    skipTrivia (blanks ++ source) = skipTrivia source := by
  induction blanks with
  | nil => rfl
  | cons letter blanks ih =>
      rw [List.all_cons, Bool.and_eq_true] at blank
      exact (skip_blank (blanks ++ source) blank.1).trans (ih blank.2)

/-- Blanks in front of a source make no difference to a fragment that skips trivia first. -/
theorem SkipsFirst.whole_behind_blanks {reader : Reader α} (skips : SkipsFirst reader)
    (blank : blanks.all Text.isBlank = true) (source : Text) :
    whole reader (blanks ++ source) = whole reader source := by
  rw [whole, skips (blanks ++ source), skipTrivia_behind_blanks blank, ← skips source]
  rfl

/-- Blanks around a whole source neither rescue nor break nor change it. -/
theorem whole_between_blanks {reader : Reader α} (skips : SkipsFirst reader) {before after : Text}
    (blankBefore : before.all Text.isBlank = true) (blankAfter : after.all Text.isBlank = true)
    (reads : (padded after).Reads Eq reader) (source : Text) :
    Alike (fun _ _ => True) Eq (whole reader source) (whole reader (before ++ source ++ after)) := by
  rw [List.append_assoc, skips.whole_behind_blanks blankBefore]
  exact reads.whole (padded_keepsWords blankAfter) (.inl rfl)

end ParamCodec.Grammar
