/-
Galleries: derivation trees with a caption that says what they are.

The caption tells whether the trees are all there are. For the derivations of a grammar it says so if the enumeration
came to an end, and otherwise down to which depth; for the derivations of a sentence it says if only some were found.
-/
import GrammarLab.Chart.Parse
import GrammarLab.Derivation.Enumerator
import GrammarLab.Tree.Order

namespace GrammarLab

/-- trees in the order in which they are shown, under a caption -/
structure Gallery where
  caption : String
  trees : List ParseTree

namespace Gallery

/-- the depth beyond the number of nonterminals to which derivations are enumerated -/
def extraDepth : Nat := 9

/-- what the trees of an enumeration are -/
def derivationsCaption (e : Enumerator) : String :=
  if e.finished then "All derivation trees" else "Derivation trees of depth at most " ++ toString e.depth

/-- the derivation trees of the start symbol, down to a depth -/
def derivations (g : Grammar) (limit : Int) (maxDepth : Option Int) : Gallery × List Event :=
  match g.start? with
  | none => (⟨"There are no derivations", []⟩, [])
  | some start =>
    let depth := maxDepth.getD (g.names.length + extraDepth : Nat)
    let (e, events) := (Enumerator.start g limit).expandTo depth
    let trees := (e.derivations? start).getD []
    let caption := derivationsCaption e
    (⟨caption, ParseTree.sort trees⟩, events ++ [.gallery caption trees.length])

/-- how the caption of a parse begins -/
def parseCaption (p : Chart.Parse) : String :=
  if !p.complete then "Some of the derivations"
  else match p.trees with
    | [] => "There are no derivations"
    | [_] => "Derivation tree"
    | _ => "Derivation trees"

/-- a caption about a sentence -/
def captionFor (beginning sentence : String) : String := beginning ++ " for '" ++ sentence ++ "'"

/-- the derivation trees of symbols, under a caption with the given sentence -/
def ofSymbols (g : Grammar) (symbols : List Symbol) (sentence : String) (limit : Int) :
    Except Chart.ParseError (Gallery × List Event) :=
  if g.isEmpty then .ok (⟨captionFor "There are no derivations" sentence, []⟩, [])
  else do
    let p ← Chart.parse g symbols limit
    return (⟨captionFor (parseCaption p) sentence, ParseTree.sort p.trees⟩, p.events)

/-- the derivation trees of a sentence -/
def ofSentence (g : Grammar) (sentence : String) (limit : Option Int) :
    Except Chart.ParseError (Gallery × List Event) :=
  ofSymbols g (splitSymbols sentence.toList) sentence (limit.getD Chart.defaultLimit)

end Gallery

end GrammarLab
