/-
All derivation trees of a grammar, grown one level of depth at a time.

A round builds the trees of every nonterminal from the trees of the round before: for each alternative, every way to
choose a tree for each of its symbols, the last choice changing fastest. After `n` rounds the trees of a nonterminal are
its derivation trees of depth at most `n`. The sizes of all trees ever built are added up; a round that takes the sum
past the limit fails and leaves the trees as they were, but the sum stays, so no later round succeeds. A round that adds
no tree is the last that anything can come of.
-/
import GrammarLab.Tree.Basic
import GrammarLab.Event

namespace GrammarLab

/-- the trees found so far, and how they were found -/
structure Enumerator where
  grammar : Grammar
  limit : Int
  /-- the trees of every nonterminal -/
  table : List (Symbol × List ParseTree)
  /-- the sum of the sizes of all trees ever built -/
  spent : Nat
  /-- the rounds that have succeeded -/
  depth : Nat
  /-- the last round added nothing -/
  finished : Bool

namespace Enumerator

/-- the sum of sizes that an enumeration may reach unless told otherwise -/
def defaultLimit : Int := 10000

/-- the enumeration before its first round -/
def start (g : Grammar) (limit : Int) : Enumerator := ⟨g, limit, g.names.map fun s => (s, []), 0, 0, false⟩

/-- the trees of a nonterminal -/
def derivations? (e : Enumerator) (s : Symbol) : Option (List ParseTree) := e.table.lookup s

/-- the trees of a nonterminal, or the reason why there are none to ask for -/
def derivations (e : Enumerator) (s : Symbol) : Except GrammarError (List ParseTree) :=
  match e.derivations? s with
  | some trees => .ok trees
  | none => .error (.noRule s)

/-- the number of trees of all nonterminals -/
def size (e : Enumerator) : Nat :=
  ((Grammar.firsts e.grammar.names).map fun s => ((e.derivations? s).getD []).length).foldr (· + ·) 0

/-! ## One round -/

/-- the trees that a symbol may be replaced by in the next round -/
def choices (e : Enumerator) (s : Symbol) : List ParseTree :=
  match e.derivations? s with
  | some trees => trees
  | none => [.leaf s]

/-- `step` for every way to choose one tree from each list, in order, until it stops; `chosen` is what has been chosen -/
def foldChoices {σ : Type} (step : σ → List ParseTree → Except σ σ) :
    List (List ParseTree) → List ParseTree → σ → Except σ σ
  | [], chosen, s => step s chosen.reverse
  | l :: ls, chosen, s => l.foldlM (fun s t => foldChoices step ls (t :: chosen) s) s

/-- what a round has built of one nonterminal, latest first, and the sum of sizes -/
structure Growth where
  spent : Nat
  trees : List ParseTree

/-- one more tree, unless it takes the sum past the limit -/
def addTree (limit : Int) (name : Symbol) (growth : Growth) (children : List ParseTree) : Except Growth Growth :=
  let tree := ParseTree.node name children
  let grown : Growth := ⟨growth.spent + tree.size, tree :: growth.trees⟩
  if limit < grown.spent then .error grown else .ok grown

/-- the trees of one alternative -/
def addAlternative (e : Enumerator) (name : Symbol) (growth : Growth) (rhs : List Symbol) : Except Growth Growth :=
  let lists := rhs.map e.choices
  if lists.any (·.isEmpty) then .ok growth else foldChoices (addTree e.limit name) lists [] growth

/-- the trees of one rule, after the rows of earlier rules; the sum of sizes if it passes the limit -/
def addRule (e : Enumerator) (round : Nat × List (Symbol × List ParseTree)) (r : Rule) :
    Except Nat (Nat × List (Symbol × List ParseTree)) :=
  match r.alternatives.foldlM (e.addAlternative r.name) ⟨round.1, []⟩ with
  | .error growth => .error growth.spent
  | .ok growth => .ok (growth.spent, round.2 ++ [(r.name, growth.trees.reverse)])

/-- what became of a round -/
structure Round where
  enumerator : Enumerator
  grown : Bool
  event : Event

/-- one more round -/
def expand (e : Enumerator) : Round :=
  match e.grammar.rules.foldlM e.addRule (e.spent, []) with
  | .error spent => ⟨{ e with spent }, false, .sizeExceeded e.limit (e.depth + 1)⟩
  | .ok (spent, table) =>
    let next : Enumerator := { e with spent, table, depth := e.depth + 1 }
    let next := { next with finished := e.finished || next.size = e.size }
    ⟨next, true, .round next.depth next.size next.spent⟩

/-! ## Many rounds -/

/-- at most `n` rounds, fewer if one fails or adds nothing; the events of each -/
def expandTimes : Nat → Enumerator → Enumerator × List Event
  | 0, e => (e, [])
  | n + 1, e =>
    if e.finished then (e, [])
    else
      let round := e.expand
      if round.grown then
        let (last, events) := expandTimes n round.enumerator
        (last, round.event :: events)
      else (round.enumerator, [round.event])

/-- rounds until the depth is reached, one fails or one adds nothing -/
def expandTo (e : Enumerator) (depth : Int) : Enumerator × List Event :=
  expandTimes (depth - e.depth).toNat e

end Enumerator

end GrammarLab
