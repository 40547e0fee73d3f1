/-
Parsing with a chart, from the end of the input to its beginning.

Every position has a state set: the items whose matched part begins there. A set starts with the items of the next one
that expect the token in between, and grows by a queue. A completed item moves on all items that expect its name where it
ends; an item that expects a nonterminal adds the alternatives of that nonterminal, and moves on at once over every tree
of it that has already been found to match nothing here. Both orders of finding an empty tree and of asking for it are
thus covered.

Items hold their trees, so an ambiguous grammar can make a state set grow for ever. A set that passes the limit is given
up: the trees found are then only some. `explore` ends because every item that it takes from the queue either is known
already or makes the set grow towards the limit.
-/
import GrammarLab.Chart.Queue
import GrammarLab.Chart.StateSet
import GrammarLab.Grammar.Reader
import GrammarLab.Event

namespace GrammarLab

/-- the state sets from some position on, with what was reported on the way -/
structure Chart where
  sets : List Chart.StateSet
  events : List Event
  /-- no state set was given up -/
  complete : Bool

namespace Chart

/-- one position under work -/
structure Front where
  set : StateSet
  queue : Queue Item
  /-- the trees found here that match nothing -/
  empties : List ParseTree

/-- a position where only the given items wait -/
def Front.start (items : List Item) : Front := ⟨.empty, .ofList items, []⟩

/-- the items of the set where a completed item ends, this position or a later one -/
def waitingFor (position : Nat) (set : StateSet) (later : List StateSet) (finish : Nat) : List Item :=
  if finish = position then set.items else ((later[finish - position - 1]?).map (·.items)).getD []

/-- the items that `item` gives rise to, where `empties` are known to match nothing -/
def consequences (g : Grammar) (position : Nat) (later : List StateSet) (set : StateSet) (empties : List ParseTree)
    (item : Item) : List Item :=
  match item.pending with
  | [] => (waitingFor position set later item.finish).filterMap (Item.over? item.name item.tree)
  | s :: _ =>
    match g.alternatives? s with
    | none => []
    | some alternatives =>
      alternatives.map (fun rhs => Item.predict s rhs position) ++
        (empties.filter fun t => t.nonTerminal? = some s).filterMap (fun t => item.over? s t)

/-- the front with `item` taken into the set and all that follows from it in the queue -/
def Front.take (g : Grammar) (position : Nat) (later : List StateSet) (front : Front) (item : Item) : Front :=
  let set := front.set.push item
  let more := consequences g position later set front.empties item
  let empties := if item.isCompleted ∧ item.finish = position then front.empties ++ [item.tree] else front.empties
  ⟨set, front.queue.pushAll more, empties⟩

/-- work through the queue; the number of items left if the set passed the limit -/
def explore (g : Grammar) (position : Nat) (later : List StateSet) (limit : Int) (front : Front) :
    StateSet × Option Nat :=
  match _h : front.queue.pop? with
  | none => (front.set, none)
  | some (item, queue) =>
    if limit < front.set.size then (front.set, some (queue.size + 1))
    else if item ∈ front.set then explore g position later limit { front with queue }
    else explore g position later limit (Front.take g position later { front with queue } item)
termination_by ((limit + 1 - front.set.size).toNat, front.queue.size)
decreasing_by
  · exact Prod.Lex.right _ (Queue.size_of_pop?_eq_some _h)
  · refine Prod.Lex.left _ _ ?_
    have grows : (Front.take g position later { front with queue } item).set.size = front.set.size + 1 :=
      StateSet.size_push front.set item
    rw [grows]
    omega

/-- the chart with one more position in front, worked through from the given items -/
def extend (g : Grammar) (limit : Int) (position : Nat) (chart : Chart) (items : List Item) : Chart :=
  match explore g position chart.sets limit (.start items) with
  | (set, none) => ⟨set :: chart.sets, chart.events ++ [.stateSet position set.size], chart.complete⟩
  | (set, some waiting) =>
    ⟨set :: chart.sets,
      chart.events ++ [.stateSetFull position limit waiting, .stateSet position set.size], false⟩

/-- the items of the next position that expect the token, moved over it -/
def scan (g : Grammar) (token : Symbol) (chart : Chart) : List Item :=
  if g.isTerminal token then
    match chart.sets with
    | [] => []
    | set :: _ => set.items.filterMap (Item.over? token (.leaf token))
  else []

/-- the chart of the tokens that stand from `position` on -/
def chartFrom (g : Grammar) (start : Symbol) (limit : Int) : Nat → List Symbol → Chart
  | position, [] => extend g limit position ⟨[], [], true⟩ [Item.predict topName [start] position]
  | position, token :: tokens =>
    let chart := chartFrom g start limit (position + 1) tokens
    chart.extend g limit position (scan g token chart)

/-! ## Trees -/

/-- what a parse found -/
structure Parse where
  /-- all trees are there -/
  complete : Bool
  trees : List ParseTree
  events : List Event

/-- why a parse has no answer -/
inductive ParseError where
  | grammar (reason : GrammarError)
  | item (reason : ItemError)

def ParseError.message : ParseError → String
  | .grammar reason => reason.message
  | .item reason => reason.message

/-- the trees of the completed items of the top name -/
def trees (chart : Chart) : Except ItemError (List ParseTree) :=
  match chart.sets with
  | [] => .ok []
  | set :: _ => (set.completed.filter (·.name = topName)).mapM Item.completeTop

/-- how many items a state set may have before it is given up, unless told otherwise -/
def defaultLimit : Int := 100

/-- the trees that derive the tokens from the start symbol -/
def parse (g : Grammar) (tokens : List Symbol) (limit : Int) : Except ParseError Parse := do
  let start ← g.start.mapError .grammar
  let chart := chartFrom g start limit 0 tokens
  let trees ← chart.trees.mapError .item
  return ⟨chart.complete, trees, chart.events⟩

/-- the trees that derive a sentence, whose tokens are its characters that are no blanks -/
def parseSentence (g : Grammar) (sentence : String) (limit : Option Int) : Except ParseError Parse :=
  parse g (splitSymbols sentence.toList) (limit.getD defaultLimit)

end Chart

end GrammarLab
