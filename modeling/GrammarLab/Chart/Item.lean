/-
Items of the chart: a rule with a mark in it.

The input is read from right to left, so the symbols after the mark have been matched, each by a tree, and those before it
are still to be matched, the nearest one first. `finish` is the position where the matched part ends. An item is completed
when nothing is left before the mark; its trees are then the children of a tree for its name.
-/
import GrammarLab.Tree.Basic
import GrammarLab.Grammar.Printer

namespace GrammarLab.Chart

/-- a rule with a mark -/
structure Item where
  name : Symbol
  /-- the symbols before the mark, from the mark to the left -/
  pending : List Symbol
  /-- the symbols after the mark -/
  matched : List Symbol
  /-- a tree for each symbol after the mark -/
  parsed : List ParseTree
  finish : Nat
deriving DecidableEq, Hashable, Inhabited

/-- what cannot be asked of an item -/
inductive ItemError where
  /-- the mark of a completed item cannot move on -/
  | advanceCompleted
  /-- no symbol stands before the mark of a completed item -/
  | currentCompleted
  /-- an item that is not completed has no tree -/
  | unfinished
  /-- not a completed item of the top name -/
  | notTop
  /-- a completed item of the top name without a tree -/
  | noTree
  /-- a completed item of the top name with several trees, the first two given -/
  | manyTrees (first second : ParseTree)
  /-- the tree under the top name is a leaf -/
  | leafTree

mutual

/-- a tree with the names of its parts -/
def describeTree : ParseTree → String
  | .leaf s => "TerminalTree(symbol=" ++ Text.quoted s ++ ")"
  | .node s cs => "NonTerminalTree(symbol=" ++ Text.quoted s ++ ", children=(" ++ describeTrees cs ++ "))"

/-- trees with the names of their parts, a comma after a single one -/
def describeTrees : List ParseTree → String
  | [] => ""
  | [c] => describeTree c ++ ","
  | c :: cs => describeTree c ++ ", " ++ describeMore cs

/-- the further trees of a list -/
def describeMore : List ParseTree → String
  | [] => ""
  | [c] => describeTree c
  | c :: cs => describeTree c ++ ", " ++ describeMore cs

end

def ItemError.message : ItemError → String
  | .advanceCompleted => "cannot advance a completed item"
  | .currentCompleted => "a completed item has no current symbol"
  | .unfinished => "only a completed item has a parse tree"
  | .notTop => "expected a completed start item"
  | .noTree => "too few items in iterable (expected 1)"
  | .manyTrees first second =>
    "Expected exactly one item in iterable, but got " ++ describeTree first ++ ", " ++ describeTree second ++
      ", and perhaps more."
  | .leafTree => ""

namespace Item

/-- a rule of which nothing has been matched yet -/
def predict (name : Symbol) (rhs : List Symbol) (finish : Nat) : Item := ⟨name, rhs.reverse, [], [], finish⟩

/-- the symbols of the rule -/
def rule (i : Item) : List Symbol := i.pending.reverse ++ i.matched

/-- how many symbols stand before the mark -/
def dot (i : Item) : Nat := i.pending.length

def isCompleted (i : Item) : Bool := i.pending.isEmpty

/-- whether the item is a completed one of the given name -/
def finishedWith (i : Item) (name : Symbol) : Bool := i.isCompleted && i.name = name

/-- whether the symbol stands just before the mark -/
def expects (i : Item) (s : Symbol) : Bool := i.pending.head? = some s

/-- the item with the mark moved over `s`, matched by `tree`, if `s` stands before the mark -/
def over? (s : Symbol) (tree : ParseTree) (i : Item) : Option Item :=
  match i.pending with
  | [] => none
  | p :: rest => if p = s then some ⟨i.name, rest, p :: i.matched, tree :: i.parsed, i.finish⟩ else none

/-- the item with the mark moved over the symbol before it, whatever it is -/
def advance (i : Item) (tree : ParseTree) : Except ItemError Item :=
  match i.pending with
  | [] => .error .advanceCompleted
  | p :: rest => .ok ⟨i.name, rest, p :: i.matched, tree :: i.parsed, i.finish⟩

/-- the symbol before the mark -/
def current (i : Item) : Except ItemError Symbol :=
  match i.pending with
  | [] => .error .currentCompleted
  | p :: _ => .ok p

/-- the tree that the trees of the item make under its name -/
def tree (i : Item) : ParseTree := .node i.name i.parsed

/-- the tree of a completed item -/
def complete (i : Item) : Except ItemError ParseTree :=
  if i.isCompleted then .ok i.tree else .error .unfinished

/-- the tree of the start symbol, from a completed item of the top name -/
def completeTop (i : Item) : Except ItemError ParseTree :=
  if !i.finishedWith topName then .error .notTop
  else match i.parsed with
    | [] => .error .noTree
    | [.leaf _] => .error .leafTree
    | [t] => .ok t
    | t :: u :: _ => .error (.manyTrees t u)

/-- an item with markup -/
def toMarkup (i : Item) : String :=
  bold "red" i.name ++ " -> " ++ " ".intercalate i.pending.reverse ++ " ● " ++ " ".intercalate i.matched ++
    "     (" ++ toString i.finish ++ ")"

end Item

end GrammarLab.Chart
