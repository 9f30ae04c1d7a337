import ParamCodec.Proofs.Grammar.QuotedForms

namespace ParamCodec.Grammar.Quoted

/-- The quotes that literals are written between. -/
def written (bytes : Bool) : Opening := ⟨false, bytes, '\x22', false⟩

/-- The bytes of a text are read back as the text. -/
theorem toText?_ofText (text : Text) : Bytes.toText? (Bytes.ofText text) = some text := by
  have same : ByteArray.mk (Bytes.ofText text).toArray = text.utf8Encode := by
    ext1
    rw [List.utf8Encode, List.data_toByteArray]
    rfl
  rw [Bytes.toText?, same, List.utf8Decode?_utf8Encode]
  rfl

/-- A numeral that has room for its number denotes it. -/
theorem isNumeral_hexadecimal {width : Nat} (stands : 0 < width) {value : Nat}
    (small : value < 16 ^ width) : IsNumeral 16 width (Text.hexadecimal width value) value := by
  induction width, stands using Nat.le_induction generalizing value with
  | base =>
      have digit := Text.digitValue?_digitChar value small
      rw [Text.hexadecimal_one small]
      refine ⟨rfl, ?_, ?_⟩
      · rw [List.forall_mem_singleton, digit]
        rfl
      · rw [Numeral.digitsValue_cons [] digit, Nat.zero_mul, Nat.zero_add]
        rfl
  | succ width stands ih =>
      have digit := Text.digitValue?_digitChar (value % 16) (Nat.mod_lt _ (by decide))
      have before := @ih (value / 16) (Nat.div_lt_of_lt_mul (Nat.pow_succ' ▸ small))
      rw [Text.hexadecimal_succ stands]
      refine ⟨?_, ?_, ?_⟩
      · rw [List.length_append, before.length, List.length_singleton]
      · rw [List.forall_mem_append, List.forall_mem_singleton, digit]
        exact ⟨before.valid, rfl⟩
      · have denotes := before.value_eq
        rw [Numeral.digitsValue] at denotes ⊢
        rw [List.foldl_append, ← denotes, List.foldl_cons, List.foldl_nil, digit, Option.getD_some,
          Nat.div_add_mod']

/-- Such a numeral is read back, whatever follows it. -/
theorem digits?_hexadecimal {width : Nat} (stands : 0 < width) {value : Nat}
    (small : value < 16 ^ width) (more : Text) :
    digits? 16 width 0 (Text.hexadecimal width value ++ more) = some (value, more) := by
  have numeral := isNumeral_hexadecimal stands small
  exact digits?_eq_some_iff.mpr ⟨_, rfl, numeral.length, numeral.valid, numeral.value_eq⟩

/-- A unit that starts with a backslash is its escape. -/
theorem unit_escape {bytes : Bool} {text rest : Text} {content : List UInt8}
    (found : escape? text = some (content, rest)) :
    unit (written bytes) ('\x5c' :: text) = .ok (content, rest) := by
  simp [unit, written, found]

/-- A letter that is neither a backslash nor the end of a line stands for itself. -/
theorem unit_plain {bytes : Bool} {letter : Char} (rest : Text) (noEscape : letter ≠ '\x5c')
    (inLine : letter ≠ '\n' ∧ letter ≠ '\r') :
    unit (written bytes) (letter :: rest) = .ok (Bytes.ofChar letter, rest) := by
  simp [unit, written, noEscape, inLine]

/-- Four digits behind a `u` are the number of a code point. -/
theorem escape?_four {source rest : Text} {value : Nat} {letter : Char}
    (digits : digits? 16 4 0 source = some (value, rest)) (isLetter : scalar? value = some letter) :
    escape? ('u' :: source) = some (Bytes.ofChar letter, rest) := by
  simp [escape?, shortEscape?, digits, isLetter]

/-- Two digits behind an `x` are the number of a byte. -/
theorem escape?_two {source rest : Text} {value : Nat} {byte : UInt8}
    (digits : digits? 16 2 0 source = some (value, rest)) (isByte : byte? value = some byte) :
    escape? ('x' :: source) = some ([byte], rest) := by
  simp [escape?, shortEscape?, digits, isByte]

/-- A letter is read from what it is written as. -/
theorem unit_escaped {bytes : Bool} (letter : Char) (more : Text) :
    unit (written bytes) (Literal.escaped letter ++ more) = .ok (Bytes.ofChar letter, more) := by
  unfold Literal.escaped
  by_cases quote : letter = '\x22'
  · subst quote
    exact unit_escape rfl
  rw [if_neg quote]
  by_cases backslash : letter = '\x5c'
  · subst backslash
    exact unit_escape rfl
  rw [if_neg backslash]
  by_cases newline : letter = '\n'
  · subst newline
    exact unit_escape rfl
  rw [if_neg newline]
  by_cases carriageReturn : letter = '\r'
  · subst carriageReturn
    exact unit_escape rfl
  rw [if_neg carriageReturn]
  by_cases tab : letter = '\t'
  · subst tab
    exact unit_escape rfl
  rw [if_neg tab]
  by_cases control : Literal.isControl letter = true
  · rw [if_pos control]
    have small : letter.toNat < 16 ^ 4 := by
      simp only [Literal.isControl, Bool.or_eq_true, Bool.and_eq_true, decide_eq_true_eq] at control
      omega
    have digits := digits?_hexadecimal (by decide) small more
    have isLetter : scalar? letter.toNat = some letter := by
      rw [scalar?, if_pos (show letter.toNat.isValidChar from letter.valid), Char.ofNat_toNat]
    exact unit_escape (escape?_four digits isLetter)
  · rw [if_neg control]
    exact unit_plain more backslash ⟨newline, carriageReturn⟩

/-- What a letter is written as does not start with a quote, so the literal goes on. -/
theorem escaped_head (letter : Char) :
    ∃ first others, Literal.escaped letter = first :: others ∧ first ≠ '\x22' := by
  unfold Literal.escaped
  by_cases quote : letter = '\x22'
  · exact ⟨_, _, if_pos quote, by decide⟩
  rw [if_neg quote]
  split_ifs <;> exact ⟨_, _, rfl, by first | decide | exact quote⟩

/-- The letters below 128 are one byte long. -/
theorem ofChar_ascii : ∀ value < 128, (Char.ofNat value).toNat = value ∧
    Bytes.ofChar (Char.ofNat value) = [UInt8.ofNat value] := by decide +kernel

/-- A letter below 128 with another number is another letter. -/
theorem ofNat_ne {byte : UInt8} {letter : Char} (small : byte.toNat < 128)
    (other : byte.toNat ≠ letter.toNat) : Char.ofNat byte.toNat ≠ letter := by
  intro same
  apply other
  rw [← same]
  exact (ofChar_ascii _ small).1.symm

/-- A byte is read from what it is written as: itself where it is printable, an escape otherwise. -/
theorem unit_escapedByte {bytes : Bool} (byte : UInt8) (more : Text) :
    unit (written bytes) (Literal.escapedByte byte ++ more) = .ok ([byte], more) := by
  unfold Literal.escapedByte
  by_cases quote : byte = 0x22
  · subst quote
    exact unit_escape rfl
  rw [if_neg quote]
  by_cases backslash : byte = 0x5C
  · subst backslash
    exact unit_escape rfl
  rw [if_neg backslash]
  by_cases printable : 0x20 ≤ byte ∧ byte ≤ 0x7E
  · rw [if_pos printable]
    have lower : 32 ≤ byte.toNat := printable.1
    have upper : byte.toNat ≤ 126 := printable.2
    have small : byte.toNat < 128 := by omega
    have noBackslash : byte.toNat ≠ 92 := fun same => backslash (UInt8.toNat_inj.mp same)
    have content : Bytes.ofChar (Char.ofNat byte.toNat) = [byte] := by
      rw [(ofChar_ascii _ small).2, UInt8.ofNat_toNat]
    rw [← content]
    apply unit_plain more (ofNat_ne small noBackslash)
    constructor
    · apply ofNat_ne small
      show byte.toNat ≠ 10
      omega
    · apply ofNat_ne small
      show byte.toNat ≠ 13
      omega
  · rw [if_neg printable]
    have small : byte.toNat < 256 := byte.toNat_lt
    have digits := digits?_hexadecimal (show 0 < 2 by decide) small more
    have isByte : byte? byte.toNat = some byte := by
      rw [byte?, if_pos small, UInt8.ofNat_toNat]
    exact unit_escape (escape?_two digits isByte)

/-- What a byte is written as does not start with a quote, so the literal goes on. -/
theorem escapedByte_head (byte : UInt8) :
    ∃ first others, Literal.escapedByte byte = first :: others ∧ first ≠ '\x22' := by
  unfold Literal.escapedByte
  by_cases quote : byte = 0x22
  · exact ⟨_, _, if_pos quote, by decide⟩
  rw [if_neg quote]
  by_cases backslash : byte = 0x5C
  · exact ⟨_, _, if_pos backslash, by decide⟩
  rw [if_neg backslash]
  by_cases printable : 0x20 ≤ byte ∧ byte ≤ 0x7E
  · refine ⟨_, _, if_pos printable, ofNat_ne ?_ fun same => quote (UInt8.toNat_inj.mp same)⟩
    have upper : byte.toNat ≤ 126 := printable.2
    omega
  · exact ⟨_, _, if_neg printable, by decide⟩

/-- Units that are written one after the other are read one after the other. -/
theorem bodyForm_flatMap {β : Type} (bytes : Bool) {write : β → Text} {content : β → List UInt8}
    (units : ∀ item more, unit (written bytes) (write item ++ more) = .ok (content item, more))
    (heads : ∀ item, ∃ first others, write item = first :: others ∧ first ≠ '\x22')
    (items : List β) (more : Text) :
    BodyForm (written bytes) (items.flatMap write ++ '\x22' :: more) (items.flatMap content) more := by
  induction items with
  | nil => exact .closed
  | cons item items ih =>
      rw [List.flatMap_cons, List.flatMap_cons, List.append_assoc]
      apply BodyForm.unit _ (units item _) ih
      obtain ⟨first, others, same, noQuote⟩ := heads item
      rw [same]
      rintro ⟨rest, whole⟩
      exact noQuote (List.cons_eq_cons.mp whole).1.symm

/-- A literal between two quotes is opened by one of them when no third follows. -/
theorem opening?_written {β : Type} {bytes : Bool} {taken : Text} (write : β → Text)
    (form : Letters false bytes taken)
    (heads : ∀ item, ∃ first others, write item = first :: others ∧ first ≠ '\x22')
    (items : List β) {more : Text} (breaks : Breaks more) :
    opening? (taken ++ '\x22' :: (items.flatMap write ++ '\x22' :: more)) =
      some (written bytes, items.flatMap write ++ '\x22' :: more) := by
  apply opening?_eq_some_iff.mpr
  refine ⟨taken, _, rfl, form, by simp [written], .single ?_⟩
  rintro ⟨rest, whole⟩
  cases items with
  | nil =>
      -- Behind an empty literal the third quote would have to come from the text that follows.
      obtain ⟨_, whole⟩ := List.cons_eq_cons.mp whole
      have ends := breaks '\x22' (by
        rw [← show _ = more from whole]
        rfl)
      cases ends
  | cons item items =>
      obtain ⟨first, others, same, noQuote⟩ := heads item
      rw [List.flatMap_cons, same] at whole
      exact noQuote (List.cons_eq_cons.mp whole).1.symm

/-- A string is read from what it is written as. -/
theorem literal_quotedText (text : Text) {more : Text} (breaks : Breaks more) :
    literal (Literal.quotedText text ++ more) = .ok (.string text, more) := by
  have starts := opening?_written Literal.escaped .none escaped_head text breaks
  have body := bodyForm_flatMap false unit_escaped escaped_head text more
  have decoded : Bytes.toText? (text.flatMap Bytes.ofChar) = some text := toText?_ofText text
  have whole : Literal.quotedText text ++ more =
      '\x22' :: (text.flatMap Literal.escaped ++ '\x22' :: more) := by
    simp [Literal.quotedText]
  rw [whole]
  exact literal_eq_ok_iff.mpr ⟨_, _, _, starts, body, .string decoded⟩

/-- Bytes are read from what they are written as. -/
theorem literal_bytesText (content : List UInt8) {more : Text} (breaks : Breaks more) :
    literal ('b' :: '\x22' :: (content.flatMap Literal.escapedByte ++ '\x22' :: more)) =
      .ok (.bytes content, more) := by
  have isBytes : Letters false true ['b'] := .bytes (by decide)
  have starts := opening?_written Literal.escapedByte isBytes escapedByte_head content breaks
  have body := bodyForm_flatMap true unit_escapedByte escapedByte_head content more
  have same : (content.flatMap fun byte => [byte]) = content := by simp
  rw [same] at body
  exact literal_eq_ok_iff.mpr ⟨_, _, _, starts, body, .bytes⟩

end ParamCodec.Grammar.Quoted
