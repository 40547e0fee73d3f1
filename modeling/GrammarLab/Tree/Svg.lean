/-
Drawings as SVG documents: one element for each primitive, one element a line.

Numbers have at most six significant digits. Texts are written with entities, so no symbol can open or close an element.
-/
import GrammarLab.Tree.Drawing
import GrammarLab.Decimal.Notation
import GrammarLab.Text.Entity

namespace GrammarLab

/-- a coordinate as an attribute -/
def svgNumber (x : Float) : String := Decimal.general 6 x

/-- an attribute with its value -/
def svgAttribute (name value : String) : String := " " ++ name ++ "=\"" ++ value ++ "\""

def Line.toSvg (l : Line Float) : String :=
  "<line" ++ svgAttribute "x1" (svgNumber l.x1) ++ svgAttribute "y1" (svgNumber l.y1) ++
    svgAttribute "x2" (svgNumber l.x2) ++ svgAttribute "y2" (svgNumber l.y2) ++ "/>"

def Primitive.toSvg : Primitive Float → String
  | .text x y colour content =>
    "<text" ++ svgAttribute "x" (svgNumber x) ++ svgAttribute "y" (svgNumber y) ++
      svgAttribute "text-anchor" "middle" ++ svgAttribute "fill" colour ++ ">" ++ Text.escapeEntities content ++ "</text>"
  | .lines colour strokes =>
    "<g" ++ svgAttribute "stroke" colour ++ svgAttribute "stroke-width" "1" ++
      svgAttribute "stroke-linecap" "round" ++ ">" ++ String.join (strokes.map Line.toSvg) ++ "</g>"
  | .rect y width height colour =>
    "<rect" ++ svgAttribute "y" (svgNumber y) ++ svgAttribute "width" (svgNumber width) ++
      svgAttribute "height" (svgNumber height) ++ svgAttribute "fill" colour ++ "/>"

namespace Drawing

/-- the opening tag of a document -/
def svgOpening (width height : Float) : String :=
  "<svg" ++ svgAttribute "width" (svgNumber width) ++ svgAttribute "height" (svgNumber height) ++
    svgAttribute "xmlns" "http://www.w3.org/2000/svg" ++ svgAttribute "version" "1.1" ++
    svgAttribute "font-family" "sans-serif" ++ svgAttribute "font-size" "15" ++ ">"

/-- a drawing as a document -/
def toSvg (d : Drawing Float) : String :=
  svgOpening d.width d.height ++ "\n  " ++ "\n  ".intercalate (d.primitives.map Primitive.toSvg) ++ "\n</svg>"

end Drawing

/-- a tree drawn as a document -/
def ParseTree.toSvg (t : ParseTree) : String := (Drawing.ofTree t : Drawing Float).toSvg

end GrammarLab
