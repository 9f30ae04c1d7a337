import ParamCodec.Proofs.Grammar.Escapes
import ParamCodec.Proofs.Grammar.Lists

namespace ParamCodec.Grammar.Quoted

/-- The letters in front of the quotes: for a raw literal, for bytes, for both or for neither. -/
inductive Letters : Bool → Bool → Text → Prop
  | none : Letters false false []
  | raw {letter : Char} (isRaw : letter ∈ ['r', 'R']) : Letters true false [letter]
  | bytes {letter : Char} (isBytes : letter ∈ ['b', 'B']) : Letters false true [letter]
  | rawBytes {first second : Char} (isRaw : first ∈ ['r', 'R']) (isBytes : second ∈ ['b', 'B']) :
      Letters true true [first, second]
  | bytesRaw {first second : Char} (isBytes : first ∈ ['b', 'B']) (isRaw : second ∈ ['r', 'R']) :
      Letters true true [first, second]

/-- Three equal quotes, or one with less than two more behind it. -/
inductive Quotes (mark : Char) (body : Text) : Bool → Text → Prop
  | triple : Quotes mark body true (mark :: mark :: mark :: body)
  | single (noMore : ¬ [mark, mark] <+: body) : Quotes mark body false (mark :: body)

/-- Opening quotes start with their mark. -/
theorem Quotes.starts {mark : Char} {body source : Text} {triple : Bool}
    (form : Quotes mark body triple source) : ∃ rest, source = mark :: rest := by
  cases form with
  | triple => exact ⟨_, rfl⟩
  | single _ => exact ⟨_, rfl⟩

/-- A token is missing exactly when the text does not start with it. -/
theorem after?_eq_none_iff {token text : Text} : Text.after? token text = none ↔ ¬ token <+: text := by
  rw [Option.eq_none_iff_forall_ne_some]
  constructor
  · rintro none ⟨rest, rfl⟩
    exact none rest (after?_eq_some_iff.mpr rfl)
  · intro noPrefix rest found
    exact noPrefix ⟨rest, (after?_eq_some_iff.mp found).symm⟩

/-- A letter of either case is taken from the source. -/
theorem takeLetter_taken {lower upper letter : Char} (rest : Text) (same : letter ∈ [lower, upper]) :
    takeLetter lower upper (letter :: rest) = (true, rest) := by
  rw [List.mem_pair] at same
  rw [takeLetter, if_pos same]

/-- Any other letter is left in the source. -/
theorem takeLetter_left {lower upper letter : Char} (rest : Text) (other : letter ∉ [lower, upper]) :
    takeLetter lower upper (letter :: rest) = (false, letter :: rest) := by
  rw [List.mem_pair] at other
  rw [takeLetter, if_neg other]

/-- Either a letter of one of the two cases is taken or the source stays as it is. -/
theorem takeLetter_cases (lower upper : Char) (source : Text) :
    (∃ letter rest, letter ∈ [lower, upper] ∧ source = letter :: rest ∧
      takeLetter lower upper source = (true, rest)) ∨
    takeLetter lower upper source = (false, source) := by
  cases source with
  | nil => exact .inr rfl
  | cons letter rest =>
      by_cases same : letter ∈ [lower, upper]
      · exact .inl ⟨letter, rest, same, rfl, takeLetter_taken rest same⟩
      · exact .inr (takeLetter_left rest same)

/-- The letters that are taken are the beginning of the source. -/
theorem letters_sound {source rest : Text} {raw bytes : Bool}
    (read : letters source = (raw, bytes, rest)) :
    ∃ taken, source = taken ++ rest ∧ Letters raw bytes taken := by
  unfold letters at read
  rcases takeLetter_cases 'r' 'R' source with ⟨first, behind, isRaw, rfl, taken⟩ | left
  · rw [taken] at read
    rcases takeLetter_cases 'b' 'B' behind with ⟨second, behind, isBytes, rfl, taken⟩ | left
    · simp only [taken] at read
      cases read
      exact ⟨_, rfl, .rawBytes isRaw isBytes⟩
    · simp only [left] at read
      cases read
      exact ⟨_, rfl, .raw isRaw⟩
  · rw [left] at read
    rcases takeLetter_cases 'b' 'B' source with ⟨first, behind, isBytes, rfl, taken⟩ | left
    · rw [taken] at read
      rcases takeLetter_cases 'r' 'R' behind with ⟨second, behind, isRaw, rfl, taken⟩ | left
      · simp only [taken] at read
        cases read
        exact ⟨_, rfl, .bytesRaw isBytes isRaw⟩
      · simp only [left] at read
        cases read
        exact ⟨_, rfl, .bytes isBytes⟩
    · simp only [left] at read
      cases read
      exact ⟨[], rfl, .none⟩

/-- Letters in front of a quote are taken as they are. -/
theorem letters_append {raw bytes : Bool} {taken : Text} (form : Letters raw bytes taken)
    {mark : Char} (isMark : mark ∈ ['\x27', '\x22']) (rest : Text) :
    letters (taken ++ mark :: rest) = (raw, bytes, mark :: rest) := by
  have noRaw : mark ∉ ['r', 'R'] := not_mem_of_mem isMark (by decide)
  have noBytes : mark ∉ ['b', 'B'] := not_mem_of_mem isMark (by decide)
  have notBoth {letter : Char} (isBytes : letter ∈ ['b', 'B']) : letter ∉ ['r', 'R'] :=
    not_mem_of_mem isBytes (by decide)
  cases form with
  | none => simp [letters, takeLetter_left, noRaw, noBytes]
  | raw isRaw => simp only [letters, List.cons_append, List.nil_append, takeLetter_taken _ isRaw,
      takeLetter_left _ noBytes]
  | bytes isBytes => simp only [letters, List.cons_append, List.nil_append,
      takeLetter_left _ (notBoth isBytes), takeLetter_taken _ isBytes, takeLetter_left _ noRaw]
  | rawBytes isRaw isBytes => simp only [letters, List.cons_append, List.nil_append,
      takeLetter_taken _ isRaw, takeLetter_taken _ isBytes]
  | bytesRaw isBytes isRaw => simp only [letters, List.cons_append, List.nil_append,
      takeLetter_left _ (notBoth isBytes), takeLetter_taken _ isBytes, takeLetter_taken _ isRaw]

/-- Opening quotes are found exactly where they stand, three of them before one. -/
theorem quotes?_eq_some_iff {source body : Text} {mark : Char} {triple : Bool} :
    quotes? source = some (mark, triple, body) ↔
      mark ∈ ['\x27', '\x22'] ∧ Quotes mark body triple source := by
  constructor
  · intro found
    cases source with
    | nil => cases found
    | cons letter source =>
        rw [quotes?] at found
        split at found
        · next isMark =>
          split at found
          · next behind three =>
            cases found
            obtain rfl := after?_eq_some_iff.mp three
            exact ⟨List.mem_pair.mpr isMark, .triple⟩
          · next one =>
            cases found
            exact ⟨List.mem_pair.mpr isMark, .single (after?_eq_none_iff.mp one)⟩
        · cases found
  · rintro ⟨isMark, form⟩
    rw [List.mem_pair] at isMark
    cases form with
    | triple =>
        have three : Text.after? [mark, mark] (mark :: mark :: body) = some body :=
          after?_eq_some_iff.mpr rfl
        rw [quotes?, if_pos isMark, three]
    | single noMore => rw [quotes?, if_pos isMark, after?_eq_none_iff.mpr noMore]

/-- The beginning of a literal is read exactly as its letters and quotes are written. -/
theorem opening?_eq_some_iff {source inside : Text} {opening : Opening} :
    opening? source = some (opening, inside) ↔
      ∃ taken start, source = taken ++ start ∧ Letters opening.raw opening.bytes taken ∧
        opening.mark ∈ ['\x27', '\x22'] ∧ Quotes opening.mark inside opening.triple start := by
  constructor
  · intro found
    obtain ⟨⟨raw, bytes, start⟩, read⟩ : ∃ triple, letters source = triple := ⟨_, rfl⟩
    obtain ⟨taken, rfl, form⟩ := letters_sound read
    rw [opening?, read] at found
    obtain ⟨⟨mark, triple, body⟩, quoted, same⟩ := Option.map_eq_some_iff.mp found
    cases same
    exact ⟨taken, start, rfl, form, quotes?_eq_some_iff.mp quoted⟩
  · rintro ⟨taken, start, rfl, form, isMark, quoted⟩
    obtain ⟨rest, rfl⟩ := quoted.starts
    rw [opening?, letters_append form isMark rest]
    dsimp only
    rw [quotes?_eq_some_iff.mpr ⟨isMark, quoted⟩]
    rfl

/-- A source starts a literal when a quote stands behind some of the letters `r` and `b`. -/
theorem startsLiteral_iff {source : Text} :
    startsLiteral source = true ↔ ∃ raw bytes taken mark, Letters raw bytes taken ∧
      mark ∈ ['\x27', '\x22'] ∧ taken ++ [mark] <+: source := by
  constructor
  · intro starts
    obtain ⟨⟨opening, inside⟩, found⟩ := Option.isSome_iff_exists.mp starts
    obtain ⟨taken, start, rfl, form, isMark, quoted⟩ := opening?_eq_some_iff.mp found
    obtain ⟨rest, rfl⟩ := quoted.starts
    exact ⟨_, _, taken, _, form, isMark, rest, by simp⟩
  · rintro ⟨raw, bytes, taken, mark, form, isMark, rest, rfl⟩
    rw [List.append_assoc]
    have quoted : ∃ triple inside, Quotes mark inside triple (mark :: rest) := by
      by_cases more : [mark, mark] <+: rest
      · obtain ⟨inside, rfl⟩ := more
        exact ⟨true, inside, .triple⟩
      · exact ⟨false, rest, .single more⟩
    obtain ⟨triple, inside, quoted⟩ := quoted
    have found : opening? (taken ++ ([mark] ++ rest)) = some (⟨raw, bytes, mark, triple⟩, inside) :=
      opening?_eq_some_iff.mpr ⟨taken, mark :: rest, rfl, form, isMark, quoted⟩
    exact Option.isSome_iff_exists.mpr ⟨_, found⟩

/-- The letters and the quotes a literal may start with. -/
def literalStarts : List Char :=
  ['r', 'R', 'b', 'B', '\x27', '\x22']

/-- A literal starts with one of the letters of prefixes or with a quote. -/
theorem startsLiteral_head {letter : Char} {rest : Text} (starts : startsLiteral (letter :: rest) = true) :
    letter ∈ literalStarts := by
  obtain ⟨raw, bytes, taken, mark, form, isMark, left, same⟩ := startsLiteral_iff.mp starts
  cases form with
  | none =>
      obtain ⟨rfl, _⟩ := List.cons_eq_cons.mp same
      exact List.mem_append_right ['r', 'R', 'b', 'B'] isMark
  | raw isRaw =>
      obtain ⟨rfl, _⟩ := List.cons_eq_cons.mp same
      exact List.mem_append_left ['b', 'B', '\x27', '\x22'] isRaw
  | bytes isBytes =>
      obtain ⟨rfl, _⟩ := List.cons_eq_cons.mp same
      exact List.mem_append_left ['\x27', '\x22'] (List.mem_append_right ['r', 'R'] isBytes)
  | rawBytes isRaw _ =>
      obtain ⟨rfl, _⟩ := List.cons_eq_cons.mp same
      exact List.mem_append_left ['b', 'B', '\x27', '\x22'] isRaw
  | bytesRaw isBytes _ =>
      obtain ⟨rfl, _⟩ := List.cons_eq_cons.mp same
      exact List.mem_append_left ['\x27', '\x22'] (List.mem_append_right ['r', 'R'] isBytes)

theorem isWordPart_of_mark {mark : Char} (isMark : mark ∈ ['\x27', '\x22']) :
    Identifier.isWordPart mark = false := none_of_mem isMark (by decide)

/-- A break completes no token that consists of other letters. -/
theorem not_prefix_append {token body more : Text} (breaks : Breaks more)
    (others : ∀ letter ∈ token, isBreak letter = false) (noPrefix : ¬ token <+: body) :
    ¬ token <+: body ++ more := by
  rintro ⟨rest, same⟩
  rcases List.append_eq_append_iff.mp same with ⟨left, rfl, _⟩ | ⟨left, rfl, rfl⟩
  · exact noPrefix (List.prefix_append token left)
  · cases left with
    | nil => exact noPrefix (by simp)
    | cons letter left =>
        have ends := breaks letter rfl
        rw [others letter (by simp)] at ends
        cases ends

theorem isBreak_of_mark {mark : Char} (isMark : mark ∈ ['\x27', '\x22']) : isBreak mark = false :=
  none_of_mem isMark (by decide)

/-- The letters of a prefix are letters of words. -/
theorem Letters.isWordPart {raw bytes : Bool} {taken : Text} (form : Letters raw bytes taken) :
    taken.all Identifier.isWordPart = true := by
  have isRaw {letter : Char} (member : letter ∈ ['r', 'R']) : Identifier.isWordPart letter = true :=
    all_of_mem member (by decide)
  have isBytes {letter : Char} (member : letter ∈ ['b', 'B']) :
      Identifier.isWordPart letter = true := all_of_mem member (by decide)
  cases form with
  | none => rfl
  | raw first => simp [isRaw first]
  | bytes first => simp [isBytes first]
  | rawBytes first second => simp [isRaw first, isBytes second]
  | bytesRaw first second => simp [isBytes first, isRaw second]

/-- The first letter of a prefix may start a word. -/
theorem Letters.isWordStart {raw bytes : Bool} {taken : Text} (form : Letters raw bytes taken) :
    ∀ letter ∈ taken.head?, Identifier.isWordStart letter = true := by
  intro letter found
  have raws (member : letter ∈ ['r', 'R']) : Identifier.isWordStart letter = true :=
    all_of_mem member (by decide)
  have bytes (member : letter ∈ ['b', 'B']) : Identifier.isWordStart letter = true :=
    all_of_mem member (by decide)
  cases form with
  | none => cases found
  | raw isRaw => cases found; exact raws isRaw
  | bytes isBytes => cases found; exact bytes isBytes
  | rawBytes isRaw _ => cases found; exact raws isRaw
  | bytesRaw isBytes _ => cases found; exact bytes isBytes

/-- No letter of a prefix breaks words. -/
theorem Letters.noBreak {raw bytes : Bool} {taken : Text} (form : Letters raw bytes taken) :
    ∀ letter ∈ taken, isBreak letter = false := by
  intro letter member
  rw [isBreak, List.all_eq_true.mp form.isWordPart letter member, Bool.true_or, Bool.not_true]

/-- Whether a literal starts in front of a break does not depend on what follows. -/
theorem startsLiteral_append {source more : Text} (breaks : Breaks more) :
    startsLiteral (source ++ more) = startsLiteral source := by
  rw [Bool.eq_iff_iff, startsLiteral_iff, startsLiteral_iff]
  constructor
  · rintro ⟨raw, bytes, taken, mark, form, isMark, within⟩
    refine ⟨raw, bytes, taken, mark, form, isMark, ?_⟩
    by_contra noPrefix
    refine not_prefix_append breaks ?_ noPrefix within
    intro letter member
    rcases List.mem_append.mp member with inside | last
    · exact form.noBreak letter inside
    · rw [List.mem_singleton.mp last]
      exact isBreak_of_mark isMark
  · rintro ⟨raw, bytes, taken, mark, form, isMark, within⟩
    exact ⟨raw, bytes, taken, mark, form, isMark, within.trans (List.prefix_append source more)⟩

/-- An opening stays what it is when text that breaks words follows. -/
theorem opening?_append {source inside more : Text} {opening : Opening} (breaks : Breaks more)
    (found : opening? source = some (opening, inside)) :
    opening? (source ++ more) = some (opening, inside ++ more) := by
  obtain ⟨taken, start, rfl, form, isMark, quoted⟩ := opening?_eq_some_iff.mp found
  refine opening?_eq_some_iff.mpr ⟨taken, start ++ more, by simp, form, isMark, ?_⟩
  generalize opening.triple = triple at quoted ⊢
  cases quoted with
  | triple => exact .triple
  | single noMore =>
      refine .single (not_prefix_append breaks ?_ noMore)
      intro letter member
      rw [List.mem_pair, or_self] at member
      rw [member]
      exact isBreak_of_mark isMark

/-- The units up to the closing quotes, and the bytes that they stand for. -/
inductive BodyForm (opening : Opening) : Text → List UInt8 → Text → Prop
  | closed {rest : Text} : BodyForm opening (opening.closing ++ rest) [] rest
  | unit {source after rest : Text} {bytes more : List UInt8} (opens : ¬ opening.closing <+: source)
      (first : unit opening source = .ok (bytes, after)) (others : BodyForm opening after more rest) :
      BodyForm opening source (bytes ++ more) rest

/-- An escape is read without a look at what follows it. -/
theorem escape?_local {source rest : Text} {bytes : List UInt8}
    (found : escape? source = some (bytes, rest)) :
    ∃ taken, source = taken ++ rest ∧ ∀ more, escape? (taken ++ more) = some (bytes, more) := by
  obtain ⟨text, rfl, form⟩ := escape?_eq_some_iff.mp found
  exact ⟨text, rfl, fun more => escape?_eq_some_iff.mpr ⟨text, rfl, form⟩⟩

/-- A unit that is not the last is read without a look at what follows it. -/
theorem unit_local {opening : Opening} {source after : Text} {bytes : List UInt8}
    (read : unit opening source = .ok (bytes, after)) :
    ∃ taken, taken ≠ [] ∧ source = taken ++ after ∧
      (after ≠ [] → ∀ more, unit opening (taken ++ more) = .ok (bytes, more)) := by
  cases source with
  | nil => cases read
  | cons letter source =>
      simp only [unit] at read
      split at read
      · next backslash =>
        split at read
        · next raw =>
          cases source with
          | nil =>
              cases read
              -- Only the backslash of a raw literal at the end of the source looks at what follows.
              exact ⟨[letter], by simp, rfl, fun stands => absurd rfl stands⟩
          | cons next source =>
              cases read
              refine ⟨[letter, next], by simp, rfl, fun _ more => ?_⟩
              simp only [List.cons_append, List.nil_append, unit, if_pos backslash, if_pos raw]
        · next decoded =>
          split at read
          · next pair escape =>
            cases read
            obtain ⟨taken, rfl, again⟩ := escape?_local escape
            refine ⟨letter :: taken, by simp, rfl, fun _ more => ?_⟩
            simp only [List.cons_append, unit, if_pos backslash, if_neg decoded, again more]
          · cases read
      · next other =>
        split at read
        · cases read
        · next inLine =>
          cases read
          refine ⟨[letter], by simp, rfl, fun _ more => ?_⟩
          simp only [List.singleton_append, unit, if_neg other, if_neg inLine]

/-- A unit of a literal takes at least one letter. -/
theorem unit_consumes (opening : Opening) : Consumes (unit opening) := by
  intro source bytes after read
  obtain ⟨taken, stands, rfl, _⟩ := unit_local read
  exact properEnd_append after stands

/-- A body is read exactly when it has the form of one. -/
theorem body_sound {opening : Opening} {steps : Nat} {source rest : Text} {content : List UInt8}
    (read : body opening steps source = .ok (content, rest)) :
    BodyForm opening source content rest := by
  induction steps generalizing source content with
  | zero => cases read
  | succ steps ih =>
      rw [body] at read
      split at read
      · next closes =>
        cases read
        rw [after?_eq_some_iff.mp closes]
        exact .closed
      · next opens =>
        obtain ⟨⟨bytes, after⟩, first, read⟩ := bind_eq_ok_iff.mp read
        obtain ⟨⟨more, left⟩, others, same⟩ := bind_eq_ok_iff.mp read
        cases same
        exact .unit (after?_eq_none_iff.mp opens) first (ih others)

/-- Every body that stands in the source is read within as many steps as it has letters. -/
theorem body_complete {opening : Opening} {source rest : Text} {content : List UInt8}
    (form : BodyForm opening source content rest) :
    ∀ steps : Nat, source.length < steps → body opening steps source = .ok (content, rest) := by
  induction form with
  | closed =>
      intro steps enough
      obtain ⟨steps, rfl⟩ := Nat.exists_eq_add_one_of_ne_zero (Nat.ne_zero_of_lt enough)
      rw [body, after?_eq_some_iff.mpr rfl]
  | unit opens first _ ih =>
      intro steps enough
      obtain ⟨steps, rfl⟩ := Nat.exists_eq_add_one_of_ne_zero (Nat.ne_zero_of_lt enough)
      have shorter := (unit_consumes opening _ _ _ first).2
      have others := ih steps (by omega)
      rw [body, after?_eq_none_iff.mpr opens]
      simp only [first, others, ok_bind, pure_eq_ok]

/-- A body is read exactly where its units and its closing quotes stand. -/
theorem body_eq_ok_iff {opening : Opening} {source rest : Text} {content : List UInt8} :
    body opening (source.length + 1) source = .ok (content, rest) ↔
      BodyForm opening source content rest :=
  ⟨body_sound, fun form => body_complete form _ (Nat.lt_succ_self _)⟩

/-- No letter of the closing quotes breaks words. -/
theorem closing_noBreak {opening : Opening} (isMark : opening.mark ∈ ['\x27', '\x22']) :
    ∀ letter ∈ opening.closing, isBreak letter = false := by
  intro letter member
  have same : letter = opening.mark := by
    unfold Opening.closing at member
    split at member <;> simpa using member
  rw [same]
  exact isBreak_of_mark isMark

/-- A body is not empty, since it has closing quotes. -/
theorem BodyForm.stands {opening : Opening} {source rest : Text} {content : List UInt8}
    (form : BodyForm opening source content rest) : source ≠ [] := by
  cases form with
  | closed =>
      unfold Opening.closing
      split <;> simp
  | unit _ first _ =>
      obtain ⟨taken, stands, rfl, _⟩ := unit_local first
      simp [stands]

/-- A break behind a literal does not change how its body is read. -/
theorem BodyForm.append {opening : Opening} {source rest more : Text} {content : List UInt8}
    (isMark : opening.mark ∈ ['\x27', '\x22']) (breaks : Breaks more)
    (form : BodyForm opening source content rest) :
    BodyForm opening (source ++ more) content (rest ++ more) := by
  induction form with
  | closed =>
      rw [List.append_assoc]
      exact .closed
  | unit opens first others ih =>
      obtain ⟨taken, stands, rfl, again⟩ := unit_local first
      refine .unit (not_prefix_append breaks (closing_noBreak isMark) opens) ?_ ih
      rw [List.append_assoc]
      exact again others.stands _

/-- What the bytes of a body denote: themselves, or the text that they encode. -/
inductive Decodes (content : List UInt8) : Bool → Literal → Prop
  | bytes : Decodes content true (.bytes content)
  | string {text : Text} (decoded : Bytes.toText? content = some text) :
      Decodes content false (.string text)

/-- A literal is read exactly when its quotes, its body and its content are as they should be. -/
theorem literal_eq_ok_iff {source rest : Text} {value : Literal} :
    literal source = .ok (value, rest) ↔
      ∃ opening inside content, opening? source = some (opening, inside) ∧
        BodyForm opening inside content rest ∧ Decodes content opening.bytes value := by
  constructor
  · intro read
    unfold literal at read
    split at read
    · cases read
    · next opening inside starts =>
      obtain ⟨⟨content, left⟩, body, read⟩ := bind_eq_ok_iff.mp read
      refine ⟨opening, inside, content, starts, ?_⟩
      generalize opening.bytes = bytes at read ⊢
      cases bytes with
      | true =>
          cases read
          exact ⟨body_eq_ok_iff.mp body, .bytes⟩
      | false =>
          simp only [Bool.false_eq_true, if_false] at read
          split at read
          · next text decoded =>
            cases read
            exact ⟨body_eq_ok_iff.mp body, .string decoded⟩
          · cases read
  · rintro ⟨opening, inside, content, starts, form, decodes⟩
    have body := body_eq_ok_iff.mpr form
    generalize isBytes : opening.bytes = bytes at decodes
    cases decodes with
    | bytes => simp only [literal, starts, body, isBytes, ok_bind, if_true, pure_eq_ok]
    | string decoded =>
        simp only [literal, starts, body, isBytes, decoded, ok_bind, Bool.false_eq_true, if_false,
          pure_eq_ok]

/-- A source that a literal is read from starts like one. -/
theorem startsLiteral_of_literal {source rest : Text} {value : Literal}
    (read : literal source = .ok (value, rest)) : startsLiteral source = true := by
  obtain ⟨opening, inside, content, starts, _⟩ := literal_eq_ok_iff.mp read
  exact Option.isSome_iff_exists.mpr ⟨_, starts⟩

/-- The content of a literal is nothing but strings and bytes. -/
theorem text_eq_ok_iff {source text rest : Text} :
    Quoted.text source = .ok (text, rest) ↔ literal source = .ok (.string text, rest) := by
  constructor
  · intro read
    obtain ⟨⟨value, left⟩, first, read⟩ := bind_eq_ok_iff.mp read
    cases value with
    | string found =>
        cases read
        exact first
    | _ => cases read
  · intro read
    simp only [Quoted.text, read, ok_bind, pure_eq_ok]

/-- Behind a body stands an end of its source. -/
theorem BodyForm.suffix {opening : Opening} {source rest : Text} {content : List UInt8}
    (form : BodyForm opening source content rest) : rest <:+ source := by
  induction form with
  | closed => exact List.suffix_append _ _
  | unit _ first _ ih => exact ih.trans (unit_consumes opening _ _ _ first).1

/-- A quoted literal takes at least one letter. -/
theorem literal_consumes : Consumes literal := by
  intro source value rest read
  obtain ⟨opening, inside, content, starts, form, _⟩ := literal_eq_ok_iff.mp read
  obtain ⟨taken, start, rfl, _, _, quoted⟩ := opening?_eq_some_iff.mp starts
  have opened : ProperEnd inside start := by
    generalize opening.triple = triple at quoted
    cases quoted with
    | triple => exact ((properEnd_cons _ _).trans (properEnd_cons _ _)).trans (properEnd_cons _ _)
    | single _ => exact properEnd_cons _ _
  exact .of_suffix form.suffix (opened.trans_suffix (List.suffix_append taken start))

/-- A break behind a literal does not change how it is read. -/
theorem literal_append {source rest more : Text} {value : Literal} (breaks : Breaks more)
    (read : literal source = .ok (value, rest)) :
    literal (source ++ more) = .ok (value, rest ++ more) := by
  obtain ⟨opening, inside, content, starts, form, decodes⟩ := literal_eq_ok_iff.mp read
  obtain ⟨_, _, _, _, isMark, _⟩ := opening?_eq_some_iff.mp starts
  exact literal_eq_ok_iff.mpr
    ⟨opening, inside ++ more, content, opening?_append breaks starts, form.append isMark breaks, decodes⟩

end ParamCodec.Grammar.Quoted
