import PlainTables.Text.DisplayWidth
import PlainTables.Text.Parts
import PlainTables.Value

/-!
# Results as boxed tables

Every column is as wide as its widest cell, and at least one column of the terminal. A cell with line
ends goes over several lines. A double rule separates the header from the rows and a broken one the
rows from each other.
-/

namespace PlainTables.Report

abbrev Cell := List (List Char)

def cell (s : String) : Cell :=
  Text.splitOn '\n' s.toList

def columnWidth (cells : List Cell) : Nat :=
  (cells.flatten.map Text.displayWidth).foldl max 1

structure Rule where
  left : Char
  line : Char
  crossing : Char
  right : Char

def topRule : Rule := ⟨'┌', '─', '┬', '┐'⟩
def headerRule : Rule := ⟨'╞', '═', '╪', '╡'⟩
def rowRule : Rule := ⟨'├', '╌', '┼', '┤'⟩
def bottomRule : Rule := ⟨'└', '─', '┴', '┘'⟩

def Rule.draw (r : Rule) (widths : List Nat) : List Char :=
  let lines := widths.map fun w => List.replicate (w + 2) r.line
  r.left :: ([r.crossing].intercalate lines ++ [r.right])

def padded (width : Nat) (line : List Char) : List Char :=
  ' ' :: (line ++ List.replicate (width - Text.displayWidth line + 1) ' ')

/-- One line of a row; cells that have ended are blank. -/
def rowLine (widths : List Nat) (cells : List Cell) (i : Nat) : List Char :=
  let parts := (widths.zip cells).map fun (w, lines) => padded w (lines.getD i [])
  '│' :: (['┆'].intercalate parts ++ ['│'])

def rowLines (widths : List Nat) (cells : List Cell) : List (List Char) :=
  let height := (cells.map List.length).foldl max 0
  (List.range height).map (rowLine widths cells)

def box (header : List Cell) (rows : List (List Cell)) : List (List Char) :=
  let widths := header.mapIdx fun i h => columnWidth (h :: rows.filterMap (·[i]?))
  [topRule.draw widths] ++ rowLines widths header ++ [headerRule.draw widths] ++
    [rowRule.draw widths].intercalate (rows.map (rowLines widths)) ++ [bottomRule.draw widths]

/-- A result as a table, with the number of its rows; one without rows is its number alone. -/
def table (columns : List String) (rows : List (List Value)) : String :=
  let count := "(" ++ toString rows.length ++ " rows)\n"
  if rows.isEmpty then count
  else
    let lines := box (columns.map cell) (rows.map fun row => row.map fun v => cell v.display)
    String.ofList (['\n'].intercalate lines) ++ "\n" ++ count

end PlainTables.Report
