/-
Grammars as text: one rule a line, `name -> alternatives`.

Alternatives stand between bars, and every character of an alternative that is no blank is a symbol of its own. The name
is a run of characters without blanks. Which arrow parts it from the alternatives is decided from the back: the arrow
after the whole run if one follows it, otherwise the last arrow inside the run that leaves something before it.
-/
import GrammarLab.Grammar.Basic
import GrammarLab.Text.Blank

namespace GrammarLab

open Text

/-- the symbols of a text, one for each character that is no blank -/
def splitSymbols (cs : List Char) : List Symbol := (cs.filter fun c => !isBlank c).map String.singleton

/-- the alternatives of a text, one for each part between bars -/
def readAlternatives (cs : List Char) : List (List Symbol) := (splitAt '|' cs).map splitSymbols

/-- what stands before and after the last arrow that has something before it -/
def lastArrow : List Char → Option (List Char × List Char)
  | [] => none
  | c :: cs =>
    match lastArrow cs with
    | some (name, rest) => some (c :: name, rest)
    | none =>
      match cs with
      | '-' :: '>' :: rest => some ([c], rest)
      | _ => none

/-- the name and the alternatives of a line -/
def splitRule (line : List Char) : Option (List Char × List Char) :=
  let body := line.dropWhile isBlank
  let word := body.takeWhile fun c => !isBlank c
  let rest := body.dropWhile fun c => !isBlank c
  if word.isEmpty then none
  else match rest.dropWhile isBlank with
    | '-' :: '>' :: rhs => some (word, rhs)
    | _ => (lastArrow word).map fun p => (p.1, p.2 ++ rest)

namespace Grammar

/-- the grammar of rules given as pairs of texts; a pair without a name is passed over -/
def ofRules (rules : List (List Char × List Char)) : Except GrammarError Grammar :=
  ofProductions (rules.flatMap fun r =>
    match trim r.1 with
    | [] => []
    | name => (readAlternatives r.2).map fun rhs => (String.ofList name, rhs))

/-- the rule on a line -/
def readLine (line : List Char) : Except GrammarError (List Char × List Char) :=
  match splitRule line with
  | some rule => .ok rule
  | none => .error (.malformedRule (String.ofList (trim line)))

/-- the grammar of a text; every line must be a rule before any is taken -/
def ofText (text : List Char) : Except GrammarError Grammar := do
  let rules ← ((lines (trim text)).filter fun line => !(trim line).isEmpty).mapM readLine
  ofRules rules

/-- the grammar that a string holds -/
def ofString (s : String) : Except GrammarError Grammar := ofText s.toList

end Grammar

end GrammarLab
