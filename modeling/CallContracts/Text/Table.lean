import CallContracts.Text.Width

/-!
# Tables drawn with lines

Every column is as wide as its widest cell, with one blank on both sides. A double line stands below
the header, dotted lines stand between rows and between cells.
-/

namespace CallContracts

/-- A header and rows of as many cells. -/
structure Table where
  header : List String
  rows : List (List String)

namespace Table

/-- The columns that each cell takes at most, in terminal columns. -/
def widths (table : Table) : List Nat :=
  table.rows.foldl (fun widths row => List.zipWith max widths (row.map Width.ofString))
    (table.header.map Width.ofString)

/-- A horizontal line: `fill` as wide as the cells, between two ends and with `crossing` between
cells. -/
def rule (left fill crossing right : String) (widths : List Nat) : String :=
  left ++
    crossing.intercalate
      (widths.map fun width => String.join (List.replicate (width + 2) fill)) ++
    right

def padded (width : Nat) (cell : String) : String :=
  cell ++ String.ofList (List.replicate (width - Width.ofString cell) ' ')

def rowLine (widths : List Nat) (cells : List String) : String :=
  "│ " ++ " ┆ ".intercalate (List.zipWith padded widths cells) ++ " │"

def lines (table : Table) : List String :=
  let widths := table.widths
  [rule "┌" "─" "┬" "┐" widths, rowLine widths table.header, rule "╞" "═" "╪" "╡" widths] ++
    (table.rows.map (rowLine widths)).intersperse (rule "├" "╌" "┼" "┤" widths) ++
    [rule "└" "─" "┴" "┘" widths]

def text (table : Table) : String :=
  "\n".intercalate table.lines

end Table

end CallContracts
