/-
Context-free grammars over plain symbols.

A grammar lists rules in order of first mention; a rule has a name and the alternatives that the name may be replaced by.
The first name is the start symbol, and a symbol is a terminal if and only if no rule has its name, so the division of
the symbols depends on the grammar alone. `addProduction` grows a grammar by one alternative and merges rules of one name;
it refuses the name that the chart parser keeps for the start. `ofTable` takes names and their alternatives as they come.
-/
import GrammarLab.Text.Quoted

namespace GrammarLab

/-- terminals and nonterminals alike are texts -/
abbrev Symbol := String

/-- a name with the alternatives that it may be replaced by -/
structure Rule where
  name : Symbol
  alternatives : List (List Symbol)
deriving DecidableEq, Repr

/-- rules in order of first mention -/
structure Grammar where
  rules : List Rule
deriving DecidableEq, Repr

/-- the start name of the chart parser, above the start symbol of every grammar -/
def topName : Symbol := "Start"

/-- why a grammar or a part of it cannot be had -/
inductive GrammarError where
  /-- a rule for the start name of the chart parser -/
  | reservedName
  /-- a line that is no rule -/
  | malformedRule (line : String)
  /-- no rule, hence no start symbol -/
  | noStart
  /-- a terminal has no alternatives -/
  | terminal (symbol : Symbol)
  /-- no rule of that name -/
  | noRule (symbol : Symbol)
deriving DecidableEq, Repr

def GrammarError.message : GrammarError → String
  | .reservedName =>
    "grammar with name " ++ topName ++ " not allowed \n" ++ topName ++
      " is an implicit start symbol used by the parser"
  | .malformedRule line => "Invalid rule: " ++ Text.quoted line ++ ", expected 'lhs -> rhs'"
  | .noStart => "an empty grammar has no start symbol"
  | .terminal symbol => Text.quoted symbol ++ " is a terminal"
  | .noRule symbol => Text.quoted symbol

namespace Grammar

/-- the grammar without rules -/
def empty : Grammar := ⟨[]⟩

/-- the nonterminals -/
def names (g : Grammar) : List Symbol := g.rules.map (·.name)

def isEmpty (g : Grammar) : Bool := g.rules.isEmpty

/-- the alternatives of a nonterminal -/
def alternatives? (g : Grammar) (s : Symbol) : Option (List (List Symbol)) :=
  (g.rules.find? (·.name = s)).map (·.alternatives)

def isNonTerminal (g : Grammar) (s : Symbol) : Bool := g.rules.any (·.name = s)

def isTerminal (g : Grammar) (s : Symbol) : Bool := !g.isNonTerminal s

/-- the alternatives of a symbol, none for a terminal -/
def alternatives (g : Grammar) (s : Symbol) : List (List Symbol) := (g.alternatives? s).getD []

def start? (g : Grammar) : Option Symbol := g.names.head?

/-- the start symbol, or the reason why there is none -/
def start (g : Grammar) : Except GrammarError Symbol :=
  match g.start? with
  | some s => .ok s
  | none => .error .noStart

/-- the alternatives of what should be a nonterminal -/
def expansions (g : Grammar) (s : Symbol) : Except GrammarError (List (List Symbol)) :=
  match g.alternatives? s with
  | some alternatives => .ok alternatives
  | none => .error (.terminal s)

/-- the alternatives under a name -/
def lookup (g : Grammar) (s : Symbol) : Except GrammarError (List (List Symbol)) :=
  match g.alternatives? s with
  | some alternatives => .ok alternatives
  | none => .error (.noRule s)

/-- every alternative with its name -/
def productions (g : Grammar) : List (Symbol × List Symbol) :=
  g.rules.flatMap fun r => r.alternatives.map fun rhs => (r.name, rhs)

/-- the list without repetitions, every element at its first place -/
def firsts : List Symbol → List Symbol
  | [] => []
  | s :: l => s :: (firsts l).filter (· ≠ s)

/-- the terminals, in order of first occurrence -/
def terminals (g : Grammar) : List Symbol := firsts ((g.productions.flatMap (·.2)).filter g.isTerminal)

/-- whether two grammars give the same alternatives to the same names, in whatever order the names stand -/
def equivalent (g h : Grammar) : Bool :=
  g.names.all (fun s => g.alternatives? s = h.alternatives? s) && h.names.all fun s => g.isNonTerminal s

/-! ## Building -/

/-- `rules` with one more alternative for `name` -/
def insertAlternative (name : Symbol) (rhs : List Symbol) : List Rule → List Rule
  | [] => [⟨name, [rhs]⟩]
  | r :: rules =>
    if r.name = name then ⟨r.name, r.alternatives ++ [rhs]⟩ :: rules
    else r :: insertAlternative name rhs rules

/-- the grammar with one more alternative; a new name goes to the end -/
def addProduction (g : Grammar) (name : Symbol) (rhs : List Symbol) : Except GrammarError Grammar :=
  if name = topName then .error .reservedName else .ok ⟨insertAlternative name rhs g.rules⟩

/-- the grammar of the given productions, added one after another -/
def ofProductions (productions : List (Symbol × List Symbol)) : Except GrammarError Grammar :=
  productions.foldlM (fun g p => g.addProduction p.1 p.2) empty

/-- the grammar with a rule for each of `names`, alternatives from the last entry of the table that has them -/
def ofTable (names : List Symbol) (table : List (Symbol × List (List Symbol))) : Except GrammarError Grammar := do
  let rules ← names.mapM fun name =>
    match table.reverse.lookup name with
    | some alternatives => .ok ⟨name, alternatives⟩
    | none => .error (.noRule name)
  return ⟨rules⟩

end Grammar

end GrammarLab
