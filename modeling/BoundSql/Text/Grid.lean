import BoundSql.Text.Columns
import BoundSql.Text.Split

/-! Grids: rows of cells under a title, drawn with lines around them for a terminal. -/
namespace BoundSql.Text

/-- A text with spaces after it, up to a number of columns. -/
def fill (width : Nat) (s : String) : String :=
  s ++ String.ofList (List.replicate (width - columns s) ' ')

/-- Rows of the same number of cells, under a title. -/
structure Grid where
  title : String
  rows : List (List String)

namespace Grid

/-- The columns that a cell takes, those of its longest line. -/
def cellWidth (cell : String) : Nat := ((split '\n' cell).map columns).foldl max 0

/-- The greater of two numbers at each place, where a missing one counts as zero. -/
def maxEach : List Nat → List Nat → List Nat
  | [], bs => bs
  | as, [] => as
  | a :: as, b :: bs => max a b :: maxEach as bs

def widths (g : Grid) : List Nat := (g.rows.map (·.map cellWidth)).foldl maxEach []

/-- A line across the grid, with a blank's width on both sides of each cell. -/
def rule (left crossing right : String) (widths : List Nat) : String :=
  let piece (width : Nat) := String.ofList (List.replicate (width + 2) '─')
  left ++ crossing.intercalate (widths.map piece) ++ right

/-- Cells that are one line each. -/
def cellLine (widths : List Nat) (cells : List String) : String :=
  "│" ++ "│".intercalate (widths.zipWith (fun width cell => " " ++ fill width cell ++ " ") cells) ++
    "│"

/-- A row, in as many lines as its highest cell has. -/
def rowLines (widths : List Nat) (row : List String) : List String :=
  let cells := row.map (split '\n')
  let height := (cells.map List.length).foldl max 0
  (List.range height).map fun i => cellLine widths (cells.map fun lines => lines[i]?.getD "")

/-- The title over all columns of cells. -/
def titleLine (widths : List Nat) (title : String) : String :=
  cellLine [widths.foldl (fun total width => total + width + 3) 0 - 3] [title]

def lines (g : Grid) : List String :=
  let widths := g.widths
  [rule "╭" "┬" "╮" widths, titleLine widths g.title, rule "├" "┼" "┤" widths] ++
    g.rows.flatMap (rowLines widths) ++ [rule "╰" "┴" "╯" widths]

/-- The grid as a text without a line break at its end. -/
def render (g : Grid) : String := "\n".intercalate g.lines

end Grid
end BoundSql.Text
