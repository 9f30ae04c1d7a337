import ParamCodec.Proofs.Grammar.TypeTexts
import ParamCodec.Proofs.Grammar.Whole

namespace ParamCodec

namespace Grammar

/-- A whole source gives a well-formed type. -/
theorem isWellFormed_of_whole {source : Text} {fragment : TypeFragment}
    (read : whole type source = .ok fragment) : fragment.isWellFormed = true := by
  obtain ⟨rest, first, _⟩ := whole_eq_ok_iff.mp read
  exact (type_readsWell first).wellFormed

/-- A well-formed type is recovered from its own text. -/
theorem whole_typeText {fragment : TypeFragment} (wellFormed : fragment.isWellFormed = true) :
    whole type fragment.sql = .ok fragment :=
  (embeds_typeText fragment wellFormed).whole endsItem_nil

end Grammar

/-- The types that can be read are exactly the well-formed ones, and each is read from its text. -/
theorem parseType_range_and_roundTrip (fragment : TypeFragment) :
    ((∃ source, parseType source = .ok fragment) ↔ fragment.isWellFormed = true) ∧
      (fragment.isWellFormed = true → parseType fragment.sql = .ok fragment) := by
  have reads (wellFormed : fragment.isWellFormed = true) : parseType fragment.sql = .ok fragment :=
    parseType_eq_ok_iff.mpr (Grammar.whole_typeText wellFormed)
  refine ⟨⟨?_, fun wellFormed => ⟨fragment.sql, reads wellFormed⟩⟩, reads⟩
  rintro ⟨source, read⟩
  exact Grammar.isWellFormed_of_whole (parseType_eq_ok_iff.mp read)

/-- A field may be named by a type keyword. -/
theorem parseType_range_and_roundTrip_keywordName :
    parseType (TypeFragment.struct [⟨some ⟨"date".toList, false⟩,
        some (.named ⟨"STRING".toList, false⟩ (some (.fixed 10)))⟩]).sql =
      .ok (.struct [⟨some ⟨"date".toList, false⟩,
        some (.named ⟨"STRING".toList, false⟩ (some (.fixed 10)))⟩]) :=
  (parseType_range_and_roundTrip _).2 (by decide)

end ParamCodec
