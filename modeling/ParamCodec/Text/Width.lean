/-
This file measures how many columns of a terminal a line takes.
-/

import ParamCodec.Text.Joining

namespace ParamCodec.Text

/-- The columns of a line and what stands at its beginning. -/
def measure (line : Text) : Int × Ahead :=
  line.foldr
    (fun letter measured =>
      let met := measured.2.meet letter
      ⟨measured.1 + met.1, met.2⟩)
    ⟨0, Ahead.plain⟩

/-- No column is taken back that was not counted before. -/
def width (line : Text) : Nat := (measure line).1.toNat

end ParamCodec.Text
