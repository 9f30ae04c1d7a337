/-
This file draws tables.

Every row has a rule above and below it. Columns are as wide as their widest line with one blank on
either side, and cells are as high as the highest of their row.
-/

import ParamCodec.Text.Width

namespace ParamCodec.Table

/-- The lines of a text; a line break at the end opens an empty line. -/
def linesOf : Text → List Text
  | [] => [[]]
  | letter :: rest =>
    if letter = '\n' then [] :: linesOf rest
    else
      match linesOf rest with
      | line :: lines => (letter :: line) :: lines
      | [] => [[letter]]

def cellWidth (cell : Text) : Nat := ((linesOf cell).map Text.width).foldl max 0

/-- The widths of the columns of some rows. -/
def columnWidths : List (List Text) → List Nat
  | [] => []
  | [row] => row.map cellWidth
  | row :: rest => List.zipWith max (row.map cellWidth) (columnWidths rest)

/-- A rule with its left end, its crossings and its right end. -/
def rule (widths : List Nat) (left crossing right : Char) : Text :=
  left :: List.intercalate [crossing] (widths.map fun width => List.replicate (width + 2) '─') ++
    [right]

/-- One line of a row: every cell filled up with blanks. -/
def lineText (widths : List Nat) (parts : List Text) : Text :=
  let filled := List.zipWith
    (fun width part => ' ' :: part ++ List.replicate (width - Text.width part + 1) ' ') widths parts
  '│' :: List.intercalate ['│'] filled ++ ['│']

/-- The lines of a row. -/
def rowLines (widths : List Nat) (row : List Text) : List Text :=
  let cells := row.map linesOf
  let height := (cells.map List.length).foldl max 1
  (List.range height).map fun index => lineText widths (cells.map fun lines => lines.getD index [])

/-- The lines of all rows with rules between them. -/
def bodyLines (widths : List Nat) : List (List Text) → List Text
  | [] => []
  | [row] => rowLines widths row
  | row :: rest => rowLines widths row ++ rule widths '├' '┼' '┤' :: bodyLines widths rest

/-- The table of a row of headings and further rows. -/
def text (headings : List Text) (rows : List (List Text)) : Text :=
  let widths := columnWidths (headings :: rows)
  List.intercalate ['\n']
    (rule widths '┌' '┬' '┐' :: bodyLines widths (headings :: rows) ++ [rule widths '└' '┴' '┘'])

end ParamCodec.Table
