import ParamCodec.Proofs.Grammar.QuotedTexts

namespace ParamCodec.Grammar.Quoted

/-- What one unit of a body is written as, and the bytes that it stands for. The end of a line is a
unit only between three quotes. -/
inductive UnitForm (triple : Bool) : Text → List UInt8 → Prop
  | letter {letter : Char} (noEscape : letter ≠ '\x5c')
      (inLine : triple = true ∨ letter ≠ '\n' ∧ letter ≠ '\r') :
      UnitForm triple [letter] (Bytes.ofChar letter)
  | escape {text : Text} {bytes : List UInt8} (form : EscapeForm text bytes) :
      UnitForm triple ('\x5c' :: text) bytes

/-- The letters and the quotes in front of a body. -/
def Opens (opening : Opening) (source inside : Text) : Prop :=
  ∃ taken start, source = taken ++ start ∧ Letters opening.raw opening.bytes taken ∧
    opening.mark ∈ ['\x27', '\x22'] ∧ Quotes opening.mark inside opening.triple start

/-- A body is cut into units, each with its bytes. The quotes that close it stand behind the last unit
and at no boundary before. -/
structure Closes (opening : Opening) (units : List (Text × List UInt8)) (inside rest : Text) : Prop where
  whole : inside = units.flatMap Prod.fst ++ (opening.closing ++ rest)
  forms : ∀ piece ∈ units, UnitForm opening.triple piece.1 piece.2
  first : ∀ before after, units = before ++ after → after ≠ [] →
    ¬ opening.closing <+: after.flatMap Prod.fst ++ (opening.closing ++ rest)

/-- The bytes that a value consists of: those of a bytes literal, and the UTF-8 of a string. -/
inductive Encodes : Bool → Literal → List UInt8 → Prop
  | bytes {content : List UInt8} : Encodes true (.bytes content) content
  | string {text : Text} : Encodes false (.string text) (Bytes.ofText text)

/-- The value of a literal whose body stands for itself. -/
def verbatim (bytes : Bool) (between : Text) : Literal :=
  if bytes then .bytes (Bytes.ofText between) else .string between

/-- Bytes are a text exactly when they encode it. -/
theorem toText?_eq_some_iff {content : List UInt8} {text : Text} :
    Bytes.toText? content = some text ↔ content = Bytes.ofText text := by
  constructor
  · intro decoded
    obtain ⟨letters, read, rfl⟩ := Option.map_eq_some_iff.mp decoded
    have encoded : letters.toList.utf8Encode = ByteArray.mk content.toArray := by
      have valid : (ByteArray.mk content.toArray).utf8Decode?.isSome := by rw [read]; rfl
      have whole := ByteArray.utf8Encode_get_utf8Decode? (h := valid)
      simpa only [read, Option.get_some] using whole
    have bytes := congrArg (fun array => array.data.toList) encoded
    rw [List.utf8Encode, List.data_toByteArray] at bytes
    exact bytes.symm
  · rintro rfl
    exact toText?_ofText text

/-- Content decodes to a value exactly when the value encodes to it. -/
theorem decodes_iff_encodes {content : List UInt8} {bytes : Bool} {value : Literal} :
    Decodes content bytes value ↔ Encodes bytes value content := by
  constructor
  · intro decodes
    cases decodes with
    | bytes => exact .bytes
    | string decoded => exact toText?_eq_some_iff.mp decoded ▸ .string
  · intro encodes
    cases encodes with
    | bytes => exact .bytes
    | string => exact .string (toText?_ofText _)

/-- Without the letter for a raw literal, a unit is read exactly when it has one of the forms. -/
theorem unit_eq_ok_iff {opening : Opening} (decoded : opening.raw = false) {source after : Text}
    {bytes : List UInt8} :
    unit opening source = .ok (bytes, after) ↔
      ∃ text, source = text ++ after ∧ UnitForm opening.triple text bytes := by
  constructor
  · intro read
    cases source with
    | nil => cases read
    | cons letter source =>
        simp only [unit, decoded, Bool.false_eq_true, if_false] at read
        split_ifs at read with backslash outside
        · split at read
          · next pair escape =>
            cases read
            obtain ⟨text, rfl, form⟩ := escape?_eq_some_iff.mp escape
            exact ⟨letter :: text, rfl, backslash ▸ .escape form⟩
          · cases read
        · cases read
          refine ⟨[letter], rfl, .letter backslash ?_⟩
          -- Between three quotes a letter may end the line.
          cases within : opening.triple with
          | true => exact .inl rfl
          | false => simpa [within] using outside
  · rintro ⟨text, rfl, form⟩
    generalize within : opening.triple = triple at form
    cases form with
    | letter noEscape inLine =>
        rcases inLine with rfl | ⟨noNewline, noReturn⟩
        · simp [unit, noEscape, within]
        · simp [unit, noEscape, noNewline, noReturn]
    | escape form =>
        simp only [List.cons_append, unit, decoded, if_true, Bool.false_eq_true, if_false]
        rw [escape?_eq_some_iff.mpr ⟨_, rfl, form⟩]

/-- The closing quotes alone close a body without units. -/
theorem Closes.nil (opening : Opening) (rest : Text) : Closes opening [] (opening.closing ++ rest) rest where
  whole := rfl
  forms := nofun
  first := fun _ _ same stands => absurd (List.append_eq_nil_iff.mp same.symm).2 stands

/-- A unit in front of a body belongs to it when the quotes do not close the body in front of the
unit. -/
theorem Closes.cons {opening : Opening} {units : List (Text × List UInt8)} {text inside rest : Text}
    {bytes : List UInt8} (form : UnitForm opening.triple text bytes)
    (opens : ¬ opening.closing <+: text ++ inside) (closes : Closes opening units inside rest) :
    Closes opening ((text, bytes) :: units) (text ++ inside) rest where
  whole := by rw [closes.whole, List.flatMap_cons, List.append_assoc]
  forms := List.forall_mem_cons.mpr ⟨form, closes.forms⟩
  first := by
    intro before after same stands
    cases before with
    | nil =>
        rw [List.nil_append] at same
        rw [← same, List.flatMap_cons, List.append_assoc, ← closes.whole]
        exact opens
    | cons piece before => exact closes.first before after (List.cons.inj same).2 stands

/-- A body without its first unit is closed by the same quotes. -/
theorem Closes.tail {opening : Opening} {units : List (Text × List UInt8)} {piece : Text × List UInt8}
    {inside rest : Text} (closes : Closes opening (piece :: units) inside rest) :
    Closes opening units (units.flatMap Prod.fst ++ (opening.closing ++ rest)) rest where
  whole := rfl
  forms := (List.forall_mem_cons.mp closes.forms).2
  first := fun before after same => closes.first (piece :: before) after (congrArg _ same)

/-- The form of a body is a sequence of units up to the quotes that close it, one after the other. -/
theorem bodyForm_iff_closes {opening : Opening} (decoded : opening.raw = false) {inside rest : Text}
    {content : List UInt8} :
    BodyForm opening inside content rest ↔
      ∃ units, Closes opening units inside rest ∧ content = units.flatMap Prod.snd := by
  constructor
  · intro form
    induction form with
    | closed => exact ⟨[], .nil opening _, rfl⟩
    | unit opens first _ ih =>
        obtain ⟨units, closes, rfl⟩ := ih
        obtain ⟨text, rfl, form⟩ := (unit_eq_ok_iff decoded).mp first
        exact ⟨_, closes.cons form opens, rfl⟩
  · rintro ⟨units, closes, rfl⟩
    induction units generalizing inside with
    | nil => exact closes.whole ▸ .closed
    | cons piece units ih =>
        have opens := closes.first [] (piece :: units) rfl (List.cons_ne_nil _ _)
        have form := closes.forms piece (List.mem_cons_self ..)
        rw [List.flatMap_cons, List.append_assoc] at opens
        rw [closes.whole, List.flatMap_cons, List.append_assoc]
        exact .unit opens ((unit_eq_ok_iff decoded).mpr ⟨_, rfl, form⟩) (ih closes.tail)

/-- In a raw literal every unit stands for itself. -/
theorem unit_raw {opening : Opening} (raw : opening.raw = true) {source after : Text}
    {bytes : List UInt8} (read : unit opening source = .ok (bytes, after)) :
    ∃ taken, source = taken ++ after ∧ bytes = Bytes.ofText taken := by
  cases source with
  | nil => cases read
  | cons letter source =>
      simp only [unit, raw, if_true] at read
      split_ifs at read
      · cases source with
        | nil =>
            cases read
            exact ⟨[letter], rfl, by simp [Bytes.ofText]⟩
        | cons next source =>
            cases read
            exact ⟨[letter, next], rfl, by simp [Bytes.ofText]⟩
      · cases read
        exact ⟨[letter], rfl, by simp [Bytes.ofText]⟩

/-- A raw body is the text up to its closing quotes. -/
theorem BodyForm.raw {opening : Opening} (raw : opening.raw = true) {inside rest : Text}
    {content : List UInt8} (form : BodyForm opening inside content rest) :
    ∃ between, inside = between ++ (opening.closing ++ rest) ∧ content = Bytes.ofText between := by
  induction form with
  | closed => exact ⟨[], rfl, rfl⟩
  | unit _ first _ ih =>
      obtain ⟨between, rfl, rfl⟩ := ih
      obtain ⟨taken, rfl, rfl⟩ := unit_raw raw first
      exact ⟨taken ++ between, (List.append_assoc ..).symm, List.flatMap_append.symm⟩

/-- The bytes of a text are decoded to the text itself. -/
theorem Decodes.verbatim {bytes : Bool} {between : Text} {value : Literal}
    (decodes : Decodes (Bytes.ofText between) bytes value) : value = verbatim bytes between := by
  cases decodes with
  | bytes => rfl
  | string decoded =>
      rw [toText?_ofText] at decoded
      cases decoded
      rfl

/-- A literal is read exactly where its opening and its body stand and the content decodes to it. -/
theorem literal_eq_ok_iff_opens {source rest : Text} {value : Literal} :
    literal source = .ok (value, rest) ↔ ∃ opening inside content, Opens opening source inside ∧
      BodyForm opening inside content rest ∧ Decodes content opening.bytes value := by
  simp only [literal_eq_ok_iff, opening?_eq_some_iff, Opens]

/-- The beginning of a source opens a literal in one way only. -/
theorem Opens.unique {source inside inside' : Text} {opening opening' : Opening}
    (opens : Opens opening source inside) (opens' : Opens opening' source inside') :
    opening = opening' ∧ inside = inside' := by
  have found := opening?_eq_some_iff.mpr opens
  rw [opening?_eq_some_iff.mpr opens'] at found
  exact (Prod.mk.inj (Option.some.inj found.symm))

/-- A literal without the letter for a raw one is read exactly when quotes, units and the quotes that
close it are its text, and then its value consists of the bytes of the units; the value of a raw
literal is the text between its quotes. -/
theorem literal_decodes (source : Text) :
    (∀ value rest,
      (literal source = .ok (value, rest) ∧
          ∀ opening inside, Opens opening source inside → opening.raw = false) ↔
        ∃ opening inside units, Opens opening source inside ∧ opening.raw = false ∧
          Closes opening units inside rest ∧
          Encodes opening.bytes value (units.flatMap Prod.snd)) ∧
    ∀ opening inside, Opens opening source inside → opening.raw = true →
      ∀ value rest, literal source = .ok (value, rest) →
        ∃ between, inside = between ++ (opening.closing ++ rest) ∧
          value = verbatim opening.bytes between := by
  -- An opening is unique in its source, so the letter for a raw literal is known from either side.
  refine ⟨fun value rest => ⟨?_, ?_⟩, ?_⟩
  · rintro ⟨read, noRaw⟩
    obtain ⟨opening, inside, content, opens, body, decodes⟩ := literal_eq_ok_iff_opens.mp read
    have decoded := noRaw opening inside opens
    obtain ⟨units, closes, rfl⟩ := (bodyForm_iff_closes decoded).mp body
    exact ⟨opening, inside, units, opens, decoded, closes, decodes_iff_encodes.mp decodes⟩
  · rintro ⟨opening, inside, units, opens, decoded, closes, encodes⟩
    constructor
    · exact literal_eq_ok_iff_opens.mpr ⟨opening, inside, _, opens,
        (bodyForm_iff_closes decoded).mpr ⟨units, closes, rfl⟩, decodes_iff_encodes.mpr encodes⟩
    · intro opening' inside' opens'
      rw [← (opens.unique opens').1]
      exact decoded
  · intro opening inside opens raw value rest read
    obtain ⟨opening', inside', content, opens', body, decodes⟩ := literal_eq_ok_iff_opens.mp read
    obtain ⟨rfl, rfl⟩ := opens.unique opens'
    obtain ⟨between, whole, rfl⟩ := body.raw raw
    exact ⟨between, whole, decodes.verbatim⟩

/-- Three escapes of a byte each make up one letter, and a raw literal keeps its backslash. -/
theorem literal_decodes_euro_raw :
    literal ['\x27', '\x5c', 'x', 'e', '2', '\x5c', '2', '0', '2', '\x5c', 'X', 'A', 'c', '\x27', '+'] =
        .ok (.string ['\u20ac'], ['+']) ∧
      ∃ between, ['\x5c', 'n', '\x22', '+'] = between ++ ['\x22', '+'] ∧
        Literal.bytes [0x5C, 0x6E] = verbatim true between := by
  have first : EscapeForm ['x', 'e', '2'] [UInt8.ofNat 0xE2] :=
    .hexadecimal (.inl rfl) ⟨rfl, List.all_eq_true.mp rfl, rfl⟩
  have second : EscapeForm ['2', '0', '2'] [UInt8.ofNat 0x82] :=
    .octal ⟨rfl, List.all_eq_true.mp rfl, rfl⟩ (by decide)
  have third : EscapeForm ['X', 'A', 'c'] [UInt8.ofNat 0xAC] :=
    .hexadecimal (.inr rfl) ⟨rfl, List.all_eq_true.mp rfl, rfl⟩
  have closes := (((Closes.nil ⟨false, false, '\x27', false⟩ ['+']).cons
    (.escape third) (by decide)).cons (.escape second) (by decide)).cons (.escape first) (by decide)
  constructor
  · have noThird : ¬ ['\x27', '\x27'] <+: ['\x5c', 'x', 'e', '2', '\x5c', '2', '0', '2', '\x5c', 'X',
        'A', 'c', '\x27', '+'] := by decide
    have opens : Opens ⟨false, false, '\x27', false⟩ _ _ :=
      ⟨[], _, rfl, .none, by decide, .single noThird⟩
    exact (((literal_decodes _).1 _ _).mpr ⟨_, _, _, opens, rfl, closes, .string⟩).1
  · have opens : Opens ⟨true, true, '\x22', false⟩ ['B', 'r', '\x22', '\x5c', 'n', '\x22', '+']
        ['\x5c', 'n', '\x22', '+'] :=
      ⟨['B', 'r'], _, rfl, .bytesRaw (by decide) (by decide), by decide, .single (by decide)⟩
    exact (literal_decodes _).2 _ _ opens rfl _ _ rfl

end ParamCodec.Grammar.Quoted
