/-
Parse trees as outlines: a label a line, each below the label of its parent and joined to it by rules.

Labels have markup. A label of several lines goes on beside the rule that leads to the labels after it. Labels for which
the rules leave no room are left out.
-/
import GrammarLab.Tree.Basic
import GrammarLab.Grammar.Printer
import GrammarLab.Text.Markup

namespace GrammarLab

/-- a label with the outlines below it -/
inductive Outline where
  | item (label : String) (below : List Outline)

namespace Outline

/-- the label of a tree, with markup -/
def label : ParseTree → String
  | .leaf s => bold "blue" s
  | .node s [] => bold "red" s ++ " " ++ bold "cyan" emptySign
  | .node s _ => bold "red" s

mutual

/-- the outline of a tree -/
def ofTree : ParseTree → Outline
  | .leaf s => item (label (.leaf s)) []
  | .node s cs => item (label (.node s cs)) (ofTrees cs)

/-- the outlines of trees -/
def ofTrees : List ParseTree → List Outline
  | [] => []
  | c :: cs => ofTree c :: ofTrees cs

end

/-! ## Lines -/

/-- lines with `first` before the first and `later` before the others -/
def indentLines (first later : String) : List String → List String
  | [] => []
  | l :: ls => (first ++ l) :: ls.map (later ++ ·)

mutual

/-- the lines of an outline, `first` before the first and `later` before the others -/
def linesWith (width : Nat) (first later : String) : Outline → Except Text.MarkupError (List String)
  | item label below => do
    let own ← if first.length < width then Text.Markup.lines (width - first.length) label else .ok []
    let others ← linesBelow width later below
    return indentLines first later own ++ others

/-- the lines of the outlines below a label, `indent` before each -/
def linesBelow (width : Nat) (indent : String) : List Outline → Except Text.MarkupError (List String)
  | [] => .ok []
  | [o] => linesWith width (indent ++ "└── ") (indent ++ "    ") o
  | o :: os => do
    let own ← linesWith width (indent ++ "├── ") (indent ++ "│   ") o
    let others ← linesBelow width indent os
    return own ++ others

end

/-- the lines of an outline where there are `width` columns -/
def lines (width : Nat) (o : Outline) : Except Text.MarkupError (List String) := o.linesWith width "" ""

end Outline

end GrammarLab
