/-
This file defines named things in the order in which their names came first.
-/

import ParamCodec.Text.Basic

namespace ParamCodec

/-- Names with what they stand for, in the order of the names' first places. -/
abbrev Entries (α : Type) := List (Text × α)

namespace Entries

/-- A new name goes to the end; a repeated name keeps its place and takes what comes last. -/
def put {α : Type} (name : Text) (value : α) : Entries α → Entries α
  | [] => [(name, value)]
  | (other, old) :: rest =>
    if other = name then (name, value) :: rest else (other, old) :: put name value rest

end Entries

end ParamCodec
