/-
This file lays out parameters and cells as texts.
-/

import ParamCodec.Binding.Parameters
import ParamCodec.Display.Cell
import ParamCodec.Report.Table

namespace ParamCodec

/-- The forms of output. -/
inductive OutputForm where
  | json
  | pretty
  | table
  deriving DecidableEq, Repr

namespace OutputForm

def name : OutputForm → Text
  | json => "Json".toList
  | pretty => "Pretty".toList
  | table => "Table".toList

/-- A form is named in any case; every other name means the pretty form. -/
def ofName (name : Text) : OutputForm :=
  if Text.lower name = "json".toList then json
  else if Text.lower name = "table".toList then table
  else pretty

end OutputForm

/-- A typed value that has no text, by its name or by its place. -/
structure Untold (α : Type) where
  place : α
  cause : Error

namespace Layout

/-- The rows of parameters: name, type and value. -/
def parameterRows : Parameters → Except (Untold Text) (List (List Text))
  | [] => .ok []
  | (name, typed) :: rest =>
    match Display.typed typed with
    | .error cause => .error ⟨name, cause⟩
    | .ok text => do
      let rows ← parameterRows rest
      return [name, typed.type.sql, text] :: rows

def parametersTable (parameters : Parameters) : Except (Untold Text) Text :=
  (parameterRows parameters).map
    (Table.text ["Name".toList, "Type".toList, "Value".toList])

/-- The texts of cells counted from an index, up to the first that has none. -/
def cellTexts (index : Nat) : List TypedValue → Except (Untold Nat) (List Text)
  | [] => .ok []
  | cell :: rest =>
    match Display.typed cell with
    | .error cause => .error ⟨index, cause⟩
    | .ok text => do
      let texts ← cellTexts (index + 1) rest
      return text :: texts

def cellsTable (cells : List TypedValue) (texts : List Text) : Text :=
  Table.text ["Type".toList, "Value".toList]
    (List.zipWith (fun cell text => [cell.type.sql, text]) cells texts)

end Layout

end ParamCodec
