/-
Parse trees as directed graphs in the language of Graphviz.

Every node of the tree is a node of the graph, equal subtrees apart, numbered in preorder. The lines of the graph are the
edges, each written when the subtree at its end has been, and then the nodes by number.
-/
import GrammarLab.Tree.Basic

namespace GrammarLab.Dot

/-- the characters that a label cannot hold as they are, the backslash first -/
def specials : List Char := ['\\', '\x27', '\x22', '<', '>', '|', '\x7b', '\x7d']

/-- the text with a backslash before every `c` -/
def protect (c : Char) (cs : List Char) : List Char := cs.flatMap fun d => if d = c then ['\\', d] else [d]

/-- a text inside a label: one special character after another protected -/
def escape (s : String) : String := String.ofList (specials.foldl (fun cs c => protect c cs) s.toList)

/-- the first line of a graph, and how its parts look -/
def opening : String :=
  "digraph G \x7b  graph [fontname = \"Courier New\", engine=\"sfdp\"];\n" ++
    " node [fontname = \"Courier\", style = rounded];\n" ++ " edge [fontname = \"Courier\"];"

/-- the last line of a graph -/
def closing : String := "\x7d"

/-- the line of one node -/
def nodeLine (id : Nat) (t : ParseTree) : String :=
  let look := match t with
    | .leaf _ => "shape=doublecircle, style=filled, fillcolor=white, fontcolor=black"
    | .node _ [] => "shape=record, style=filled, fillcolor=gray, fontcolor=white"
    | .node _ _ => "shape=record, style=filled, fillcolor=black, fontcolor=white"
  let label := match t with
    | .leaf s => escape s
    | .node s [] => escape s ++ " → ε"
    | .node s _ => escape s
  "   " ++ toString id ++ " [" ++ look ++ ", label=\"" ++ label ++ "\"];"

/-- the line of one edge -/
def edgeLine (parent child : Nat) : String :=
  "    " ++ toString parent ++ ":from_false -> " ++ toString child ++ ":from_node [arrowhead=vee] "

/-- nodes by number from some number on, and edges between them -/
structure Graph where
  nodes : List ParseTree
  edges : List (Nat × Nat)

mutual

/-- the graph of a tree whose root has the number `id` -/
def graph (id : Nat) : ParseTree → Graph
  | .leaf s => ⟨[.leaf s], []⟩
  | .node s cs =>
    let below := graphs id (id + 1) cs
    ⟨.node s cs :: below.nodes, below.edges⟩

/-- the graph of the trees below `parent`, numbered from `id` on -/
def graphs (parent id : Nat) : List ParseTree → Graph
  | [] => ⟨[], []⟩
  | c :: cs =>
    let first := graph id c
    let others := graphs parent (id + first.nodes.length) cs
    ⟨first.nodes ++ others.nodes, first.edges ++ (parent, id) :: others.edges⟩

end

/-- the lines of the nodes, numbered from `id` on -/
def nodeLines (id : Nat) : List ParseTree → List String
  | [] => []
  | t :: ts => nodeLine id t :: nodeLines (id + 1) ts

/-- the lines of the graph of a tree -/
def lines (t : ParseTree) : List String :=
  let g := graph 0 t
  opening :: g.edges.map (fun e => edgeLine e.1 e.2) ++ nodeLines 0 g.nodes ++ [closing]

end GrammarLab.Dot
