import ParamCodec.Json.Writer
import ParamCodec.Proofs.Text.Digits

namespace ParamCodec.Json

/-- Items stand between commas. -/
theorem compactItems_eq (items : List Json) :
    compactItems items = List.intercalate [','] (items.map compact) := by
  induction items with
  | nil => rfl
  | cons item items ih =>
      cases items with
      | nil => rw [compactItems, List.map_singleton, List.intercalate_singleton]
      | cons next items =>
          change _ = List.intercalate [','] (item.compact :: (next :: items).map compact)
          rw [compactItems, ih, List.intercalate_cons_of_ne_nil (by simp), List.append_assoc,
            List.singleton_append]
          exact List.cons_ne_nil _ _

/-- A member is its key as a string, a colon and its value. -/
def memberText (member : Text × Json) : Text := stringText member.1 ++ ':' :: member.2.compact

/-- Members stand between commas. -/
theorem compactMembers_eq (members : List (Text × Json)) :
    compactMembers members = List.intercalate [','] (members.map memberText) := by
  induction members with
  | nil => rfl
  | cons member members ih =>
      cases members with
      | nil => rw [compactMembers, List.map_singleton, List.intercalate_singleton, memberText]
      | cons next members =>
          change _ = List.intercalate [','] (memberText member :: (next :: members).map memberText)
          rw [compactMembers, ih, ← memberText, List.intercalate_cons_of_ne_nil (by simp),
            List.append_assoc, List.singleton_append]
          exact List.cons_ne_nil _ _

/-- An array is its items between square brackets. -/
theorem compact_array (items : List Json) :
    (array items).compact = '[' :: List.intercalate [','] (items.map compact) ++ [']'] := by
  rw [compact, compactItems_eq]

/-- An object is its members between braces. -/
theorem compact_object (members : List (Text × Json)) :
    (object members).compact = '\x7b' :: List.intercalate [','] (members.map memberText) ++ ['\x7d'] := by
  rw [compact, compactMembers_eq]

theorem compact_object_one (member : Text × Json) :
    (object [member]).compact = '\x7b' :: memberText member ++ ['\x7d'] := by
  rw [compact_object, List.map_singleton, List.intercalate_singleton]

theorem compact_object_two (first second : Text × Json) :
    (object [first, second]).compact =
      '\x7b' :: memberText first ++ ',' :: memberText second ++ ['\x7d'] := by
  rw [compact_object, List.map_cons, List.map_singleton, List.intercalate_cons_cons,
    List.intercalate_singleton, List.append_assoc, List.singleton_append, ← List.cons_append]

/-- A member whose value is a string is two strings around a colon. -/
theorem memberText_string (key text : Text) :
    memberText (key, string text) = stringText key ++ ':' :: stringText text := by
  rw [memberText, compact]

/-- There is no numeral for a number that is not finite. -/
theorem numberText_notFinite {number : Binary64} (special : ¬ number.isFinite = true) :
    numberText number = "null".toList := by
  have exponent : number.exponentField = 2047 := by simpa [Binary64.isFinite] using special
  rw [numberText, Binary64.datum, if_pos exponent]
  split_ifs <;> rfl

/-- The letters that a backslash and one letter stand for. -/
def shortEscapes : List (Char × Char) :=
  [('\x22', '\x22'), ('\x5c', '\x5c'), ('\x08', 'b'), ('\t', 't'), ('\n', 'n'), ('\x0c', 'f'),
   ('\r', 'r')]

/-- These letters are written as their short escapes. -/
theorem escaped_short : ∀ pair ∈ shortEscapes, escaped pair.1 = ['\x5c', pair.2] := by decide

/-- A letter without a short escape becomes a number when it is a control character. -/
theorem escaped_other {letter : Char} (other : ∀ pair ∈ shortEscapes, letter ≠ pair.1) :
    escaped letter =
      if letter.toNat < 32 then '\x5c' :: 'u' :: Text.hexadecimal 4 letter.toNat else [letter] := by
  simp only [shortEscapes, List.forall_mem_cons] at other
  obtain ⟨quote, backslash, backspace, tab, newline, feed, carriageReturn, -⟩ := other
  have noBackspace : letter.toNat ≠ 8 := fun same => backspace (Char.toNat_inj.mp same)
  have noFeed : letter.toNat ≠ 12 := fun same => feed (Char.toNat_inj.mp same)
  rw [escaped, if_neg quote, if_neg backslash, if_neg noBackspace, if_neg tab, if_neg newline,
    if_neg noFeed, if_neg carriageReturn]

/-- The number of a control character has four digits, of which the first two are zeros. -/
theorem escaped_control {letter : Char} (control : letter.toNat < 32)
    (other : ∀ pair ∈ shortEscapes, letter ≠ pair.1) :
    ∃ high low, escaped letter = "\x5cu00".toList ++ [high, low] ∧
      "0123456789abcdef".toList[letter.toNat / 16]? = some high ∧
      "0123456789abcdef".toList[letter.toNat % 16]? = some low := by
  have two : letter.toNat < 16 ^ 2 := by omega
  have three : letter.toNat < 16 ^ 3 := by omega
  obtain ⟨high, low, digits, isHigh, isLow⟩ := Text.hexadecimal_two two
  have four : Text.hexadecimal 4 letter.toNat = ['0', '0', high, low] := by
    rw [Text.hexadecimal_fill (by decide) three, Text.hexadecimal_fill (by decide) two, digits]
  refine ⟨high, low, ?_, isHigh, isLow⟩
  rw [escaped_other other, if_pos control, four]
  rfl

/-- All other letters stand for themselves. -/
theorem escaped_plain {letter : Char} (printable : 32 ≤ letter.toNat) (noQuote : letter ≠ '\x22')
    (noBackslash : letter ≠ '\x5c') : escaped letter = [letter] := by
  have other : ∀ pair ∈ shortEscapes, letter ≠ pair.1 := by
    have noControl : ∀ control : Char, control.toNat < 32 → letter ≠ control := by
      rintro _ small rfl
      omega
    simp only [shortEscapes, List.forall_mem_cons]
    refine ⟨noQuote, noBackslash, noControl _ ?_, noControl _ ?_, noControl _ ?_, noControl _ ?_,
      noControl _ ?_, List.forall_mem_nil _⟩
    all_goals decide
  rw [escaped_other other, if_neg (Nat.not_lt.mpr printable)]

/-- A text without quotes, backslashes and control characters is written as it is. -/
theorem stringText_plain {text : Text}
    (plain : ∀ letter ∈ text, 32 ≤ letter.toNat ∧ letter ≠ '\x22' ∧ letter ≠ '\x5c') :
    stringText text = '\x22' :: text ++ ['\x22'] := by
  have same : text.flatMap escaped = text.flatMap ([·]) := List.flatMap_congr fun letter member =>
    escaped_plain (plain letter member).1 (plain letter member).2.1 (plain letter member).2.2
  rw [stringText, same, List.flatMap_singleton']

end ParamCodec.Json
