/-
Drawings of parse trees.

A tree is drawn in a box of thirty by forty-five for each of its columns and levels, with its sentence in a strip below.
Leaves stand in their columns from left to right; a node stands above the median of its children; the second copy of
every leaf stands in the strip, `levels` below the leaf, wherever the leaf is. The coordinates may be of any type that
can be calculated with: drawings are made with doubles, and can be reasoned about with rationals.
-/
import GrammarLab.Tree.Basic

namespace GrammarLab

/-- numbers that coordinates can be -/
class Coordinate (K : Type) extends Add K, Sub K, Div K where
  ofInt : Int → K

instance : Coordinate Float where
  ofInt := Float.ofInt

/-- a stroke from one point to another -/
structure Line (K : Type) where
  x1 : K
  y1 : K
  x2 : K
  y2 : K

/-- the things a drawing is made of -/
inductive Primitive (K : Type) where
  /-- text centred at a point -/
  | text (x y : K) (colour text : String)
  /-- strokes of one colour -/
  | lines (colour : String) (lines : List (Line K))
  /-- a filled box at the left edge -/
  | rect (y width height : K) (colour : String)

/-- primitives in the order in which they are painted, and the room that they take -/
structure Drawing (K : Type) where
  width : K
  height : K
  primitives : List (Primitive K)

namespace Drawing

/-! ## Measures and colours -/

/-- the width of a column -/
def columnWidth : Int := 30

/-- the distance between two levels -/
def levelHeight : Int := 45

/-- the height of the strip -/
def stripHeight : Int := 30

/-- where lines end above the base of a text -/
def lineTop : Int := 15

/-- where lines begin below the base of a text -/
def lineBottom : Int := 5

/-- the room beside the box -/
def sideMargin : Int := 20

/-- the room below the strip -/
def footMargin : Int := 20

def leafColour : String := "#0000cc"

def leafLineColour : String := "#dddddd"

def nodeColour : String := "#cc0000"

def nodeLineColour : String := "black"

def emptyColour : String := "#aaaaaa"

def boxColour : String := "#fff7db"

def stripColour : String := "#f0e6bc"

variable {K : Type} [Coordinate K]

open Coordinate

/-! ## Trees -/

/-- the middle of the positions, halfway between two -/
def median (x : K) (positions : List K) : K :=
  match positions[(positions.length - 1) / 2]?, positions[positions.length / 2]? with
  | some a, some b => (a + b) / ofInt 2
  | _, _ => x

/-- a leaf at its place, again in the strip, and the line between the two -/
def leafPrimitives (s : Symbol) (x y : K) (levels : Int) : List (Primitive K) :=
  let base := y + ofInt (levels * levelHeight) - ofInt 10
  [.text x y leafColour s, .text x base leafColour s,
   .lines leafLineColour [⟨x, y + ofInt lineBottom, x, base - ofInt lineTop⟩]]

/-- a node at `root` and the lines to its children, or the sign for an empty replacement -/
def nodePrimitives (s : Symbol) (x y root : K) (positions : List K) : List (Primitive K) :=
  let below := y + ofInt levelHeight
  let top := y + ofInt lineBottom
  let bottom := below - ofInt lineTop
  .text root y nodeColour s ::
    if positions.isEmpty then
      [.text x below emptyColour "ε", .lines emptyColour [⟨x, top, x, bottom⟩]]
    else [.lines nodeLineColour (positions.map fun p => ⟨root, top, p, bottom⟩)]

mutual

/-- the primitives of a tree whose left edge is at `x` and whose root is at height `y`, `levels` above the strip, and
where its root comes to stand -/
def draw : ParseTree → K → K → Int → List (Primitive K) × K
  | .leaf s, x, y, levels => (leafPrimitives s x y levels, x)
  | .node s cs, x, y, levels =>
    let (primitives, positions) := drawAll cs x (y + ofInt levelHeight) (levels - 1)
    let root := median x positions
    (primitives ++ nodePrimitives s x y root positions, root)

/-- the primitives of trees side by side from `x` on, and where their roots come to stand -/
def drawAll : List ParseTree → K → K → Int → List (Primitive K) × List K
  | [], _, _, _ => ([], [])
  | c :: cs, x, y, levels =>
    let (first, root) := draw c x y levels
    let (others, roots) := drawAll cs (x + ofInt (c.width * columnWidth)) y levels
    (first ++ others, root :: roots)

end

/-- the drawing of a tree with the box and the strip behind it -/
def ofTree (t : ParseTree) : Drawing K :=
  let width : Int := t.width * columnWidth
  let height : Int := t.height * levelHeight
  ⟨ofInt (width + sideMargin), ofInt (height + stripHeight + footMargin),
    .rect (ofInt 0) (ofInt width) (ofInt height) boxColour ::
      .rect (ofInt height) (ofInt width) (ofInt stripHeight) stripColour ::
      (draw t (ofInt columnWidth / ofInt 2) (ofInt 30) t.height).1⟩

end Drawing

end GrammarLab
