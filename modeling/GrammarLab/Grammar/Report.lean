/-
The findings about a grammar in words: sentences for what is wrong with it, and a table of its nonterminals.
-/
import GrammarLab.Grammar.Analysis
import GrammarLab.Text.Table

namespace GrammarLab.Analysis

open Text

/-- the nonterminals of the grammar that are among `members`, in its order -/
def ordered (a : Analysis) (members : List Symbol) : List Symbol :=
  let known := Std.HashSet.ofList members
  a.grammar.names.filter known.contains

/-- the sentence that some nonterminals are as the adjective says -/
def describe (a : Analysis) (members : List Symbol) (adjective : String) : String :=
  let names := a.ordered members
  let plural := 1 < names.length
  (if plural then "Nonterminals " else "Nonterminal ") ++ ", ".intercalate names ++
    (if plural then " are " else " is ") ++ adjective ++ "."

/-- one sentence for each kind of problem that occurs -/
def issues (a : Analysis) : List String :=
  let report (members : List Symbol) (adjective : String) : List String :=
    if members.isEmpty then [] else [a.describe members adjective]
  report a.unreachable ("unreachable from the start symbol " ++ a.grammar.start?.getD "") ++
    report a.unrealizable "unrealizable (cannot generate any strings)" ++
    report a.cyclic
      (if a.infinitelyAmbiguous then "cyclic, so some strings have infinitely many derivations" else "cyclic")

/-- what the table says about one nonterminal: reachable, realizable, nullable, cyclic -/
def marks (a : Analysis) (s : Symbol) : List Bool :=
  [!a.unreachable.contains s, !a.unrealizable.contains s, a.nullable.contains s, a.cyclic.contains s]

/-- the nonterminals with what the table says about them -/
def rows (a : Analysis) : List (Symbol × List Bool) := a.grammar.names.map fun s => (s, a.marks s)

/-- the table of the nonterminals -/
def table (a : Analysis) : List String :=
  tableLines ["<NT>", "reachable", "realizable", "nullable", "cyclic"]
    (a.rows.map fun row => row.1 :: row.2.map fun mark => if mark then "True" else "False")

/-- the four sets on one line -/
def toText (a : Analysis) : String :=
  let listed (members : List Symbol) : String := bracketed ((a.ordered members).map quoted)
  "GrammarProperties(unreachable=" ++ listed a.unreachable ++ ", unrealizable=" ++ listed a.unrealizable ++
    ", nullable=" ++ listed a.nullable ++ ", cyclic=" ++ listed a.cyclic ++ ")"

end GrammarLab.Analysis

namespace GrammarLab

/-- what is wrong with a grammar; nothing is wrong with one without rules -/
def Grammar.issues (g : Grammar) : Except AnalysisError (List String) :=
  if g.isEmpty then .ok [] else do
    let a ← g.analyse
    return a.issues

end GrammarLab
