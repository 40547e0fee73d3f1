/-
Tables in a box of plus signs, dashes and bars.

Every column is as wide as its widest cell, and every cell is centred between one space on either side. A cell with line
feeds has several lines, and the cells beside it are filled up with empty ones; tabs in it go on to the next multiple of
eight characters. The head stands between two border lines, and a third closes the table, also when it has no rows.
-/
import GrammarLab.Text.Blank
import GrammarLab.Text.Extent
import GrammarLab.Text.Tabs

namespace GrammarLab.Text

/-- `n` spaces -/
def spaces (n : Nat) : String := String.ofList (List.replicate n ' ')

/-- `s` centred in `width` columns; of an odd number of spaces the extra one goes left if the width is odd too -/
def centred (width : Nat) (s : String) : String :=
  let pad := width - extent s.toList
  let left := pad / 2 + (if pad % 2 = 1 ∧ width % 2 = 1 then 1 else 0)
  spaces left ++ s ++ spaces (pad - left)

/-- the lines of a cell -/
def cellLines (s : String) : List String :=
  (splitAt '\n' (expandTabs (fun _ => 1) 0 s.toList)).map String.ofList

/-- the width of a cell, that of its widest line -/
def cellWidth (s : String) : Nat := ((cellLines s).map fun line => extent line.toList).foldl max 0

/-- the width of every column, that of its widest cell -/
def columnWidths (head : List String) (rows : List (List String)) : List Nat :=
  rows.foldl (fun widths row => List.zipWith max widths (row.map cellWidth)) (head.map cellWidth)

/-- a border line over columns of the given widths -/
def borderLine (widths : List Nat) : String :=
  "+" ++ String.join (widths.map fun w => String.ofList (List.replicate (w + 2) '-') ++ "+")

/-- a line of cells over columns of the given widths -/
def cellLine (widths : List Nat) (cells : List String) : String :=
  "|" ++ String.join (List.zipWith (fun w cell => " " ++ centred w cell ++ " |") widths cells)

/-- the lines of a row of cells over columns of the given widths -/
def rowLines (widths : List Nat) (cells : List String) : List String :=
  let cells := cells.map cellLines
  let height := (cells.map List.length).foldl max 0
  (List.range height).map fun k => cellLine widths (cells.map fun cell => cell.getD k "")

/-- the lines of a table with a head -/
def tableLines (head : List String) (rows : List (List String)) : List String :=
  let widths := columnWidths head rows
  borderLine widths :: rowLines widths head ++
    borderLine widths :: rows.flatMap (rowLines widths) ++ [borderLine widths]

end GrammarLab.Text
