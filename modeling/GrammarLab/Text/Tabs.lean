/-
Tabs, which go on to the next of the stops that stand every eight columns.
-/

namespace GrammarLab.Text

/-- the columns from one stop to the next -/
def tabSize : Nat := 8

/-- the text with spaces for every tab, if a character takes `width` columns; `column` columns of its line have been
passed -/
def expandTabs (width : Char → Nat) (column : Nat) : List Char → List Char
  | [] => []
  | c :: cs =>
    if c = '\t' then
      let fill := tabSize - column % tabSize
      List.replicate fill ' ' ++ expandTabs width (column + fill) cs
    else c :: expandTabs width (if c = '\n' ∨ c = '\r' then 0 else column + width c) cs

end GrammarLab.Text
