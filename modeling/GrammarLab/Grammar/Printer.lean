/-
Grammars written out: as the text that the reader takes, and with markup for the console.

In both forms an empty alternative is written `ε`. The plain text runs the symbols of an alternative together; the
marked-up form keeps them apart and shows nonterminals, terminals and `ε` in different colours.
-/
import GrammarLab.Grammar.Basic

namespace GrammarLab

/-- `s` in bold and the given colour -/
def bold (colour s : String) : String := "[bold " ++ colour ++ "]" ++ s ++ "[/bold " ++ colour ++ "]"

/-- the sign for an empty text -/
def emptySign : String := "ε"

namespace Grammar

/-- an alternative as text -/
def alternativeText (rhs : List Symbol) : String :=
  let text := String.join rhs
  if text.isEmpty then emptySign else text

/-- a rule as text -/
def ruleText (r : Rule) : String := r.name ++ " -> " ++ " | ".intercalate (r.alternatives.map alternativeText)

/-- a grammar as text -/
def toText (g : Grammar) : String := "\n".intercalate (g.rules.map ruleText)

/-- an alternative with markup -/
def alternativeMarkup (g : Grammar) (rhs : List Symbol) : String :=
  if rhs.isEmpty then bold "cyan" emptySign
  else " ".intercalate (rhs.map fun s => bold (if g.isNonTerminal s then "red" else "blue") s)

/-- a rule with markup -/
def ruleMarkup (g : Grammar) (r : Rule) : String :=
  bold "red" r.name ++ " => " ++ " | ".intercalate (r.alternatives.map g.alternativeMarkup)

/-- a grammar with markup -/
def toMarkup (g : Grammar) : String := "\n".intercalate (g.rules.map g.ruleMarkup)

end Grammar

end GrammarLab
