import ParamCodec.Bytes.Base64

namespace ParamCodec.Base64

/-- Each symbol has the value that it stands for, and none of them fills up a group. -/
theorem symbolValue?_symbol {value : Nat} (small : value < 64) :
    symbolValue? (symbol value) = some value ∧ symbol value ≠ '=' := by
  have each : ∀ index : Fin 64,
      symbolValue? (symbol index) = some index.val ∧ symbol index ≠ '=' := by decide +kernel
  exact each ⟨value, small⟩

/-- The number of a byte is turned into the byte again. -/
theorem ofNat_of_eq {byte : UInt8} {value : Nat} (same : value = byte.toNat) :
    UInt8.ofNat value = byte := by
  rw [same, UInt8.ofNat_toNat]

/-- What was written in base 64 is read back. -/
theorem decode?_encode (bytes : List UInt8) : decode? (encode bytes) = some bytes := by
  -- The induction takes three bytes at a time; one or two bytes are left over at the end, where the
  -- letters of the fill say how many.
  fun_induction encode bytes with
  | case1 => rfl
  | case2 first =>
      have bound := first.toNat_lt
      obtain ⟨high, _⟩ := symbolValue?_symbol (show first.toNat / 4 < 64 by omega)
      obtain ⟨low, _⟩ := symbolValue?_symbol (show first.toNat % 4 * 16 < 64 by omega)
      have unused : first.toNat % 4 * 16 % 16 = 0 := by omega
      have same : UInt8.ofNat (first.toNat / 4 * 4 + first.toNat % 4 * 16 / 16) = first :=
        ofNat_of_eq (by omega)
      simp only [decode?, high, low, Option.bind_eq_bind, Option.bind_some, unused, if_true, same]
  | case3 first second =>
      have bound := first.toNat_lt
      have bounded := second.toNat_lt
      obtain ⟨high, _⟩ := symbolValue?_symbol (show first.toNat / 4 < 64 by omega)
      obtain ⟨middle, _⟩ := symbolValue?_symbol
        (show first.toNat % 4 * 16 + second.toNat / 16 < 64 by omega)
      obtain ⟨low, noFill⟩ := symbolValue?_symbol (show second.toNat % 16 * 4 < 64 by omega)
      have unused : second.toNat % 16 * 4 % 4 = 0 := by omega
      have same : UInt8.ofNat (first.toNat / 4 * 4 +
          (first.toNat % 4 * 16 + second.toNat / 16) / 16) = first := ofNat_of_eq (by omega)
      have others : UInt8.ofNat ((first.toNat % 4 * 16 + second.toNat / 16) % 16 * 16 +
          second.toNat % 16 * 4 / 4) = second := ofNat_of_eq (by omega)
      rw [decode?]
      · simp only [high, middle, low, Option.bind_eq_bind, Option.bind_some, unused, if_true, same,
          others]
      · exact noFill
  | case4 first second third rest ih =>
      have bound := first.toNat_lt
      have bounded := second.toNat_lt
      have boundThird := third.toNat_lt
      obtain ⟨high, _⟩ := symbolValue?_symbol (show first.toNat / 4 < 64 by omega)
      obtain ⟨upper, _⟩ := symbolValue?_symbol
        (show first.toNat % 4 * 16 + second.toNat / 16 < 64 by omega)
      obtain ⟨lower, _⟩ := symbolValue?_symbol
        (show second.toNat % 16 * 4 + third.toNat / 64 < 64 by omega)
      obtain ⟨low, noFill⟩ := symbolValue?_symbol (show third.toNat % 64 < 64 by omega)
      have one : UInt8.ofNat (first.toNat / 4 * 4 +
          (first.toNat % 4 * 16 + second.toNat / 16) / 16) = first := ofNat_of_eq (by omega)
      have two : UInt8.ofNat ((first.toNat % 4 * 16 + second.toNat / 16) % 16 * 16 +
          (second.toNat % 16 * 4 + third.toNat / 64) / 4) = second := ofNat_of_eq (by omega)
      have three : UInt8.ofNat ((second.toNat % 16 * 4 + third.toNat / 64) % 4 * 64 +
          third.toNat % 64) = third := ofNat_of_eq (by omega)
      rw [decode?]
      · simp only [high, upper, lower, low, ih, Option.bind_eq_bind, Option.bind_some, one, two, three]
      · exact fun _ fill _ => noFill fill
      · exact fun fill _ => noFill fill

end ParamCodec.Base64
