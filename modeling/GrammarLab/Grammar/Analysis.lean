/-
What can be said about a grammar without deriving anything.

Four sets of nonterminals: those that no chain of rules from the start symbol leads to, those that generate no string,
those that generate the empty string, and those that can come back to themselves alone in one or more steps. The second
is the largest set and the third the smallest that a step leaves unchanged; the fourth are the loops in the closure of
"is the only symbol left of an alternative". A set is held as the list of its members in the order of the grammar.
-/
import GrammarLab.Grammar.Printer
import GrammarLab.Relation.Fixpoint
import GrammarLab.Relation.Closure

namespace GrammarLab

/-- the four sets, with the grammar that they are about -/
structure Analysis where
  grammar : Grammar
  unreachable : List Symbol
  unrealizable : List Symbol
  nullable : List Symbol
  cyclic : List Symbol

/-- an iteration passed its bound -/
inductive AnalysisError where
  | tooManySteps
deriving DecidableEq, Repr

def AnalysisError.message : AnalysisError → String
  | .tooManySteps => "Too many iterations for function step"

namespace Grammar

/-- the names of the rules that satisfy `p` -/
def namesOf (g : Grammar) (p : Rule → Bool) : List Symbol := (g.rules.filter p).map (·.name)

/-- every nonterminal related to the nonterminals in its alternatives -/
def mentions (g : Grammar) : Relation Symbol :=
  .ofList (g.rules.map fun r => (r.name, r.alternatives.flatten.filter g.isNonTerminal))

/-- the nonterminals that the start symbol does not lead to -/
def unreachable (g : Grammar) : List Symbol :=
  let reached := g.mentions.reach (g.names.take 1)
  g.namesOf fun r => !reached.contains r.name

/-- of the suspects, those with a suspect in every alternative -/
def unrealizableStep (g : Grammar) (suspects : List Symbol) : List Symbol :=
  let known := Std.HashSet.ofList suspects
  g.namesOf fun r =>
    known.contains r.name && !r.alternatives.any fun rhs => rhs.all fun s => !known.contains s

/-- the nonterminals already found, with those that have an alternative made of them -/
def nullableStep (g : Grammar) (found : List Symbol) : List Symbol :=
  let known := Std.HashSet.ofList found
  g.namesOf fun r => known.contains r.name || r.alternatives.any fun rhs => rhs.all known.contains

/-- `step` iterated from `start`, within the usual bound -/
def iterate (step : List Symbol → List Symbol) (start : List Symbol) : Except AnalysisError (List Symbol) :=
  fixpoint (.error .tooManySteps) (fun l => .ok (step l)) fixpointBound start

/-- what an alternative may be cut down to when all symbols but one vanish -/
def survivors (g : Grammar) (vanishes : Symbol → Bool) (rhs : List Symbol) : List Symbol :=
  match rhs.filter fun s => !vanishes s with
  | [] => rhs
  | [s] => if g.isNonTerminal s then [s] else []
  | _ => []

/-- every nonterminal related to the symbols that it can become without company -/
def collapses (g : Grammar) (nullable : List Symbol) : Relation Symbol :=
  let known := Std.HashSet.ofList nullable
  .ofList (g.rules.map fun r => (r.name, r.alternatives.flatMap (g.survivors known.contains)))

/-- the nonterminals that come back to themselves -/
def cyclic (g : Grammar) (nullable : List Symbol) : List Symbol :=
  let loops := Std.HashSet.ofList (g.collapses nullable).closure.loops
  g.namesOf fun r => loops.contains r.name

/-- the four sets of a grammar -/
def analyse (g : Grammar) : Except AnalysisError Analysis := do
  let unrealizable ← iterate g.unrealizableStep g.names
  let nullable ← iterate g.nullableStep []
  return ⟨g, g.unreachable, unrealizable, nullable, g.cyclic nullable⟩

end Grammar

namespace Analysis

/-- some string has infinitely many derivations: a nonterminal that matters comes back to itself -/
def infinitelyAmbiguous (a : Analysis) : Bool :=
  a.cyclic.any fun s => !a.unreachable.contains s && !a.unrealizable.contains s

end Analysis

end GrammarLab
