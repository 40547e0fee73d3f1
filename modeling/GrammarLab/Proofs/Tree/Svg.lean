/-
Drawings of trees as documents, read back.

Main statement:
- `toSvg_exact`: whatever the symbols are, the document of a tree is one element with an element for each primitive in it,
  in the order in which they are painted; the texts are found again by undoing the entities; and other symbols change
  nothing but the texts.
-/
import GrammarLab.Tree.Svg
import GrammarLab.Proofs.Decimal.Characters
import GrammarLab.Proofs.Text.Document
import GrammarLab.Proofs.Grammar.Renaming
import GrammarLab.Proofs.Tree.Columns

namespace GrammarLab

open Document
open Text (plain)

/-! ## Other symbols -/

namespace ParseTree

mutual

theorem width_rename (r : Symbol → Symbol) : ∀ t : ParseTree, (t.rename r).width = t.width
  | .leaf _ => rfl
  | .node s cs => by rw [rename, width, width, totalWidth_renameAll r cs]

theorem totalWidth_renameAll (r : Symbol → Symbol) : ∀ cs : List ParseTree, totalWidth (renameAll r cs) = totalWidth cs
  | [] => rfl
  | c :: cs => by rw [renameAll, totalWidth, totalWidth, width_rename r c, totalWidth_renameAll r cs]

end

mutual

theorem height_rename (r : Symbol → Symbol) : ∀ t : ParseTree, (t.rename r).height = t.height
  | .leaf _ => rfl
  | .node _ [] => rfl
  | .node _ (c :: cs) => by
    rw [rename, renameAll, height, height, height_rename r c, maxHeight_renameAll r cs]

theorem maxHeight_renameAll (r : Symbol → Symbol) : ∀ cs : List ParseTree, maxHeight (renameAll r cs) = maxHeight cs
  | [] => rfl
  | c :: cs => by rw [renameAll, maxHeight, maxHeight, height_rename r c, maxHeight_renameAll r cs]

end

end ParseTree

/-! ## Tags -/

/-- a tag with its attributes, without the brackets -/
def tagText (tagName : String) (attributes : List (String × String)) : String :=
  tagName ++ String.join (attributes.map fun a => svgAttribute a.1 a.2)

section

variable {tagName : String} {attributes : List (String × String)}

theorem toList_svgAttribute (key value : String) :
    (svgAttribute key value).toList = (' ' :: key.toList ++ ['=']) ++ '\x22' :: (value.toList ++ ['\x22']) := by
  simp [svgAttribute]

theorem toList_tagText (tagName : String) (attributes : List (String × String)) :
    (tagText tagName attributes).toList =
      tagName.toList ++ attributes.flatMap fun a => (svgAttribute a.1 a.2).toList := by
  rw [tagText, String.toList_append, String.toList_join, List.flatMap_map]

/-- a text without brackets and quotes -/
def PlainText (s : String) : Prop := ∀ c ∈ s.toList, plain c = true

instance (s : String) : Decidable (PlainText s) := decidable_of_decidable_of_iff (List.all_eq_true (l := s.toList))

theorem plainText_svgNumber (x : Float) : PlainText (svgNumber x) := by
  intro c hc
  exact Text.plain_of_class (Decimal.numeric_general 6 x c hc) (by decide) (by decide) (by decide)

theorem inside_svgAttribute {key value : String} (hkey : PlainText key) (hvalue : PlainText value) :
    Inside (svgAttribute key value).toList := by
  have hname : Inside (' ' :: key.toList ++ ['=']) := by
    refine inside_plain fun c hc => ?_
    simp only [List.cons_append, List.mem_cons, List.mem_append, List.not_mem_nil, or_false] at hc
    rcases hc with rfl | hc | rfl
    · decide
    · exact hkey c hc
    · decide
  rw [toList_svgAttribute]
  exact hname.append (inside_quoted hvalue)

/-- a tag has a name of letters and attributes without brackets and quotes -/
structure WellWritten (tagName : String) (attributes : List (String × String)) : Prop where
  letters : tagName.toList.all Char.isAlpha = true
  named : tagName.toList ≠ []
  some_attribute : attributes ≠ []
  plain : ∀ a ∈ attributes, PlainText a.1 ∧ PlainText a.2

theorem plainText_of_letters (h : tagName.toList.all Char.isAlpha = true) : PlainText tagName := by
  intro c hc
  exact Text.plain_of_class (List.all_eq_true.1 h c hc) (by decide) (by decide) (by decide)

theorem WellWritten.inside (h : WellWritten tagName attributes) : Inside (tagText tagName attributes).toList := by
  rw [toList_tagText]
  refine (inside_plain (plainText_of_letters h.letters)).append ?_
  have hplain := h.plain
  clear h
  induction attributes with
  | nil => exact inside_plain (by simp)
  | cons a attributes ih =>
    obtain ⟨⟨hkey, hvalue⟩, hothers⟩ := List.forall_mem_cons.1 hplain
    exact (inside_svgAttribute hkey hvalue).append (ih hothers)

theorem name_tagText (hletters : tagName.toList.all Char.isAlpha = true) (hne : attributes ≠ []) :
    name (tagText tagName attributes).toList = tagName.toList := by
  -- the name ends at the blank before the first attribute
  obtain ⟨a, others, rfl⟩ := List.exists_cons_of_ne_nil hne
  have hname : ∀ c ∈ tagName.toList, decide (c ≠ ' ') = true := by
    intro c hc
    have hletter := List.all_eq_true.1 hletters c hc
    rw [decide_eq_true_eq]
    rintro rfl
    exact absurd hletter (by decide)
  rw [toList_tagText, name, List.takeWhile_append_of_pos hname, List.flatMap_cons, toList_svgAttribute]
  exact List.append_nil _

theorem WellWritten.opens (h : WellWritten tagName attributes) :
    Opens tagName.toList (tagText tagName attributes).toList where
  inside := h.inside
  name_eq := name_tagText h.letters h.some_attribute
  head := by
    obtain ⟨c, cs, hname⟩ := List.exists_cons_of_ne_nil h.named
    have hletter := List.all_eq_true.1 h.letters c (hname ▸ List.mem_cons_self)
    rw [toList_tagText, hname, List.cons_append, List.head?_cons]
    intro hslash
    obtain rfl := Option.some.inj hslash
    exact absurd hletter (by decide)
  last := by
    obtain ⟨others, a, rfl⟩ := (List.eq_nil_or_concat' attributes).resolve_left h.some_attribute
    rw [toList_tagText, List.flatMap_append, List.flatMap_singleton, toList_svgAttribute, ← List.cons_append,
      ← List.append_assoc, ← List.append_assoc, ← List.append_assoc, List.getLast?_concat]
    decide

/-- an element without content -/
theorem WellWritten.writes_empty (h : WellWritten tagName attributes) :
    Writes ('<' :: ((tagText tagName attributes).toList ++ ['/', '>'])) (.element (tagText tagName attributes) []) := by
  have hne : (tagText tagName attributes).toList ≠ [] := by
    rw [toList_tagText]
    exact List.append_ne_nil_of_left_ne_nil h.named _
  have hwrites := Document.writes_empty h.opens hne
  rwa [String.ofList_toList] at hwrites

/-- an element with nodes and then a text in it -/
theorem WellWritten.writes_element (h : WellWritten tagName attributes) {content text : List Char} {nodes : List Node}
    (hcontent : WritesAll content nodes) (htext : ∀ c ∈ text, Text.plain c = true) :
    Writes ('<' :: ((tagText tagName attributes).toList ++ ['>']) ++ (content ++ text) ++
        '<' :: '/' :: (tagName.toList ++ ['>'])) (.element (tagText tagName attributes) (nodes ++ pending text)) := by
  have hwrites := Document.writes_element h.opens (plainText_of_letters h.letters) hcontent htext
  rwa [String.ofList_toList] at hwrites

end

/-! ## Elements for primitives -/

namespace Document

/-- the text that an element named `text` shows -/
def Node.shown? (n : Node) : Option String :=
  if n.tagName? = some "text" then some (String.ofList (Text.decodeEntities n.content.toList)) else none

theorem join_pending (cs : List Char) : String.join ((pending cs).filterMap Node.text?) = String.ofList cs := by
  unfold pending
  split_ifs with h
  · rw [h]
    rfl
  · simp [Node.text?]

end Document

namespace Line

def attributes (l : Line Float) : List (String × String) :=
  [("x1", svgNumber l.x1), ("y1", svgNumber l.y1), ("x2", svgNumber l.x2), ("y2", svgNumber l.y2)]

/-- the element of a stroke -/
def element (l : Line Float) : Node := .element (tagText "line" l.attributes) []

theorem writes (l : Line Float) : Writes l.toSvg.toList l.element := by
  have hwell : WellWritten "line" l.attributes := by
    refine ⟨by decide, by decide, by simp [attributes], ?_⟩
    simp only [attributes, List.forall_mem_cons, plainText_svgNumber, and_true]
    exact ⟨by decide, by decide, by decide, by decide, by simp⟩
  have htext : l.toSvg.toList = '<' :: ((tagText "line" l.attributes).toList ++ ['/', '>']) := by
    simp [toSvg, toList_tagText, attributes]
  rw [htext]
  exact hwell.writes_empty

end Line

namespace Primitive

/-- the name of its element -/
def tagName : Primitive Float → String
  | .text _ _ _ _ => "text"
  | .lines _ _ => "g"
  | .rect _ _ _ _ => "rect"

def attributes : Primitive Float → List (String × String)
  | .text x y colour _ => [("x", svgNumber x), ("y", svgNumber y), ("text-anchor", "middle"), ("fill", colour)]
  | .lines colour _ => [("stroke", colour), ("stroke-width", "1"), ("stroke-linecap", "round")]
  | .rect y width height colour =>
    [("y", svgNumber y), ("width", svgNumber width), ("height", svgNumber height), ("fill", colour)]

/-- what is in its element, a text as it is written -/
def content : Primitive Float → List Node
  | .text _ _ _ content => pending (Text.escapeEntities content).toList
  | .lines _ strokes => strokes.map Line.element
  | .rect _ _ _ _ => []

/-- the element of a primitive -/
def element (p : Primitive Float) : Node := .element (tagText p.tagName p.attributes) p.content

variable {K : Type}

def colour : Primitive K → String
  | .text _ _ colour _ => colour
  | .lines colour _ => colour
  | .rect _ _ _ colour => colour

/-- a primitive without its text -/
def blank : Primitive K → Primitive K
  | .text x y colour _ => .text x y colour ""
  | .lines colour strokes => .lines colour strokes
  | .rect y width height colour => .rect y width height colour

theorem letters_tagName (p : Primitive Float) :
    p.tagName.toList.all Char.isAlpha = true ∧ p.tagName.toList ≠ [] := by
  cases p <;> simp only [tagName] <;> decide

theorem attributes_ne_nil (p : Primitive Float) : p.attributes ≠ [] := by
  cases p <;> exact List.cons_ne_nil _ _

theorem tagName?_element (p : Primitive Float) : p.element.tagName? = some p.tagName := by
  rw [element, Node.tagName?, name_tagText (letters_tagName p).1 p.attributes_ne_nil, String.ofList_toList]

/-- the text that an element shows, its entities undone -/
theorem shown?_element (p : Primitive Float) : p.element.shown? = (Drawing.label? p).map Drawing.Label.text := by
  unfold Node.shown?
  rw [tagName?_element]
  cases p with
  | text x y colour text =>
    have htext : (Primitive.text x y colour text).element.content = Text.escapeEntities text := by
      rw [element, Node.content, content, join_pending, String.ofList_toList]
    rw [htext, Text.decodeEntities_escapeEntities, String.ofList_toList]
    rfl
  | lines colour strokes => rfl
  | rect y width height colour => rfl

theorem bare_element_blank (p : Primitive Float) : p.blank.element.bare = p.element.bare := by
  cases p with
  | text x y colour text =>
    -- an empty text has no node, so the two elements differ before their texts are left out
    have hnothing : ∀ cs : List Char, Node.allBare (pending cs) = [] := by
      intro cs
      unfold pending
      split_ifs <;> rfl
    simp only [element, Node.bare, content, blank, hnothing]
    rfl
  | lines colour strokes => rfl
  | rect y width height colour => rfl

theorem wellWritten {p : Primitive Float} (h : PlainText p.colour) : WellWritten p.tagName p.attributes := by
  obtain ⟨hletters, hnamed⟩ := letters_tagName p
  refine ⟨hletters, hnamed, p.attributes_ne_nil, ?_⟩
  cases p with
  | text x y colour content =>
    simp only [attributes, List.forall_mem_cons, plainText_svgNumber, and_true]
    exact ⟨by decide, by decide, by decide, ⟨by decide, h⟩, by simp⟩
  | lines colour strokes =>
    simp only [attributes, List.forall_mem_cons]
    exact ⟨⟨by decide, h⟩, by decide, by decide, by simp⟩
  | rect y width height colour =>
    simp only [attributes, List.forall_mem_cons, plainText_svgNumber, and_true]
    exact ⟨by decide, by decide, by decide, ⟨by decide, h⟩, by simp⟩

theorem writes {p : Primitive Float} (h : PlainText p.colour) : Writes p.toSvg.toList p.element := by
  have hwell := wellWritten h
  cases p with
  | text x y colour content =>
    have hplain : ∀ c ∈ (Text.escapeEntities content).toList, Text.plain c = true :=
      fun c hc => Text.plain_of_mem_escapeEntities hc
    have hwrites := hwell.writes_element writesAll_nil hplain
    simpa [toSvg, toList_tagText, element, tagName, attributes, Primitive.content] using hwrites
  | lines colour strokes =>
    have hstrokes : WritesAll (strokes.flatMap fun l => l.toSvg.toList) (strokes.flatMap fun l => [l.element]) :=
      writesAll_flatMap fun l _ => l.writes.writesAll
    rw [← List.map_eq_flatMap] at hstrokes
    have hnothing : ∀ c ∈ ([] : List Char), Text.plain c = true := by simp
    have hwrites := hwell.writes_element hstrokes hnothing
    simpa [toSvg, toList_tagText, element, tagName, attributes, content, pending, List.flatMap_map] using hwrites
  | rect y width height colour =>
    have hwrites := hwell.writes_empty
    simpa [toSvg, toList_tagText, element, tagName, attributes, content] using hwrites

end Primitive

/-! ## Documents for drawings -/

namespace Drawing

/-- what is in the element of a drawing: each primitive on a line of its own -/
def nodes (primitives : List (Primitive Float)) : List Node :=
  primitives.flatMap (fun p => [.text "\n  ", p.element]) ++ [.text "\n"]

def attributes (d : Drawing Float) : List (String × String) :=
  [("width", svgNumber d.width), ("height", svgNumber d.height), ("xmlns", "http://www.w3.org/2000/svg"),
    ("version", "1.1"), ("font-family", "sans-serif"), ("font-size", "15")]

/-- the document of a drawing -/
def document (d : Drawing Float) : Node := .element (tagText "svg" d.attributes) (nodes d.primitives)

theorem nodes_cons (p : Primitive Float) (others : List (Primitive Float)) :
    nodes (p :: others) = .text "\n  " :: p.element :: nodes others := rfl

section

variable (primitives : List (Primitive Float))

theorem filter_isElement_nodes : (nodes primitives).filter Node.isElement = primitives.map Primitive.element := by
  induction primitives with
  | nil => rfl
  | cons p primitives ih =>
    have htext : ¬ Node.isElement (.text "\n  ") = true := Bool.false_ne_true
    have helement : p.element.isElement = true := rfl
    rw [nodes_cons, List.filter_cons_of_neg htext, List.filter_cons_of_pos helement, ih, List.map_cons]

/-- what is found in the elements of a drawing and not in texts -/
theorem filterMap_nodes {α : Type} {f : Node → Option α} (hf : ∀ s, f (.text s) = none) :
    (nodes primitives).filterMap f = primitives.filterMap fun p => f p.element := by
  induction primitives with
  | nil => exact List.filterMap_cons_none (hf "\n")
  | cons p primitives ih =>
    rw [nodes_cons, List.filterMap_cons_none (hf _), List.filterMap_cons, List.filterMap_cons, ih]

theorem tagName?_nodes : (nodes primitives).filterMap Node.tagName? = primitives.map Primitive.tagName := by
  have hnodes := filterMap_nodes primitives (f := Node.tagName?) fun _ => rfl
  simpa [Primitive.tagName?_element] using hnodes

theorem shown?_nodes : (nodes primitives).filterMap Node.shown? = (labels primitives).map Label.text := by
  have hnodes := filterMap_nodes primitives (f := Node.shown?) fun _ => rfl
  simpa [Primitive.shown?_element, labels, List.map_filterMap] using hnodes

theorem allBare_nodes :
    Node.allBare (nodes primitives) = (primitives.map Primitive.blank).flatMap fun p => p.element.bare := by
  induction primitives with
  | nil => rfl
  | cons p primitives ih =>
    rw [nodes_cons, Node.allBare, Node.allBare, ih, List.map_cons, List.flatMap_cons, Primitive.bare_element_blank]
    rfl

end

theorem wellWritten (d : Drawing Float) : WellWritten "svg" d.attributes := by
  refine ⟨by decide, by decide, List.cons_ne_nil _ _, ?_⟩
  simp only [attributes, List.forall_mem_cons, plainText_svgNumber, and_true]
  exact ⟨by decide, by decide, by decide, by decide, by decide, by decide, by simp⟩

theorem append_intercalate {ls : List (List Char)} (hne : ls ≠ []) (sep : List Char) :
    sep ++ sep.intercalate ls = ls.flatMap fun l => sep ++ l := by
  induction ls with
  | nil => exact absurd rfl hne
  | cons l ls ih =>
    cases ls with
    | nil => simp
    | cons m ls =>
      rw [List.intercalate_cons_cons, List.append_assoc, ih (List.cons_ne_nil m ls)]
      exact (List.append_assoc sep l _).symm

/-- the primitives of a drawing with colours that can stand in quotes -/
def PlainColours (primitives : List (Primitive Float)) : Prop := ∀ p ∈ primitives, PlainText p.colour

theorem writes_toSvg {d : Drawing Float} (hne : d.primitives ≠ []) (hcolours : PlainColours d.primitives) :
    Writes d.toSvg.toList d.document := by
  -- the line break between two elements belongs to the second, as the break after the opening tag does to the first
  have hbody : WritesAll (d.primitives.flatMap fun p => "\n  ".toList ++ p.toSvg.toList)
      (d.primitives.flatMap fun p => [.text "\n  ", p.element]) :=
    writesAll_flatMap fun p hp => (Primitive.writes (hcolours p hp)).writesAll_after (List.all_eq_true.1 rfl)
  have hlines : "\n  ".toList ++ "\n  ".toList.intercalate (d.primitives.map fun p => p.toSvg.toList) =
      d.primitives.flatMap fun p => "\n  ".toList ++ p.toSvg.toList := by
    rw [append_intercalate (by simpa using hne), List.flatMap_map]
  have htext : d.toSvg.toList = '<' :: ((tagText "svg" d.attributes).toList ++ ['>']) ++
      ((d.primitives.flatMap fun p => "\n  ".toList ++ p.toSvg.toList) ++ ['\n']) ++
        '<' :: '/' :: ("svg".toList ++ ['>']) := by
    rw [← hlines]
    simp [toSvg, svgOpening, toList_tagText, attributes, String.toList_intercalate, Function.comp_def]
  rw [htext]
  exact d.wellWritten.writes_element hbody (List.all_eq_true.1 rfl)

/-! ## Trees -/

open ParseTree

variable {K : Type} [Coordinate K]

/-- the colours that trees are drawn with -/
def palette : List String :=
  [leafColour, leafLineColour, nodeColour, nodeLineColour, emptyColour, boxColour, stripColour]

theorem plainText_of_mem_palette : ∀ colour ∈ palette, PlainText colour := by decide

theorem colour_leafPrimitives (s : Symbol) (x y : K) (levels : Int) :
    ∀ p ∈ leafPrimitives s x y levels, p.colour ∈ palette := by
  simp [leafPrimitives, Primitive.colour, palette]

theorem colour_nodePrimitives (s : Symbol) (x y root : K) (positions : List K) :
    ∀ p ∈ nodePrimitives s x y root positions, p.colour ∈ palette := by
  cases positions <;> simp [nodePrimitives, Primitive.colour, palette]

mutual

theorem colour_draw : ∀ (t : ParseTree) (x y : K) (levels : Int), ∀ p ∈ (draw t x y levels).1, p.colour ∈ palette
  | .leaf s, x, y, levels => colour_leafPrimitives s x y levels
  | .node s cs, x, y, levels => by
    rw [draw]
    intro p hp
    rcases List.mem_append.1 hp with hp | hp
    · exact colour_drawAll cs _ _ _ p hp
    · exact colour_nodePrimitives _ _ _ _ _ p hp

theorem colour_drawAll : ∀ (cs : List ParseTree) (x y : K) (levels : Int),
    ∀ p ∈ (drawAll cs x y levels).1, p.colour ∈ palette
  | [], _, _, _ => by simp [drawAll]
  | c :: cs, x, y, levels => by
    rw [drawAll]
    intro p hp
    rcases List.mem_append.1 hp with hp | hp
    · exact colour_draw c _ _ _ p hp
    · exact colour_drawAll cs _ _ _ p hp

end

theorem plainColours_ofTree (t : ParseTree) : PlainColours (ofTree t).primitives := by
  intro p hp
  apply plainText_of_mem_palette
  rw [ofTree] at hp
  rcases List.mem_cons.1 hp with rfl | hp
  · simp [Primitive.colour, palette]
  · rcases List.mem_cons.1 hp with rfl | hp
    · simp [Primitive.colour, palette]
    · exact colour_draw t _ _ _ p hp

theorem blank_nodePrimitives (s s' : Symbol) (x y root : K) (positions : List K) :
    (nodePrimitives s x y root positions).map Primitive.blank = (nodePrimitives s' x y root positions).map Primitive.blank := by
  cases positions <;> rfl

mutual

/-- other symbols change nothing but the texts, and no position -/
theorem draw_rename (r : Symbol → Symbol) : ∀ (t : ParseTree) (x y : K) (levels : Int),
    (draw (t.rename r) x y levels).1.map Primitive.blank = (draw t x y levels).1.map Primitive.blank ∧
      (draw (t.rename r) x y levels).2 = (draw t x y levels).2
  | .leaf _, _, _, _ => ⟨rfl, rfl⟩
  | .node s cs, x, y, levels => by
    obtain ⟨hbelow, hpositions⟩ := drawAll_rename r cs x (y + Coordinate.ofInt levelHeight) (levels - 1)
    simp only [rename, draw, hpositions, List.map_append, hbelow, blank_nodePrimitives (r s) s, and_self]

theorem drawAll_rename (r : Symbol → Symbol) : ∀ (cs : List ParseTree) (x y : K) (levels : Int),
    (drawAll (renameAll r cs) x y levels).1.map Primitive.blank = (drawAll cs x y levels).1.map Primitive.blank ∧
      (drawAll (renameAll r cs) x y levels).2 = (drawAll cs x y levels).2
  | [], _, _, _ => ⟨rfl, rfl⟩
  | c :: cs, x, y, levels => by
    obtain ⟨hfirst, hroot⟩ := draw_rename r c x y levels
    obtain ⟨hothers, hroots⟩ := drawAll_rename r cs (x + Coordinate.ofInt (c.width * columnWidth)) y levels
    simp only [renameAll, drawAll, width_rename, hroot, hroots, List.map_append, hfirst, hothers, and_self]

end

theorem ofTree_rename (r : Symbol → Symbol) (t : ParseTree) :
    (ofTree (t.rename r) : Drawing K).primitives.map Primitive.blank = (ofTree t : Drawing K).primitives.map Primitive.blank ∧
      (ofTree (t.rename r) : Drawing K).width = (ofTree t : Drawing K).width ∧
      (ofTree (t.rename r) : Drawing K).height = (ofTree t : Drawing K).height := by
  simp only [ofTree, width_rename, height_rename, List.map_cons, (draw_rename r t _ _ _).1, and_self]

/-- the document of a tree -/
theorem read_toSvg (t : ParseTree) : read t.toSvg = some [document (ofTree t)] :=
  Writes.read_eq (writes_toSvg (List.cons_ne_nil _ _) (plainColours_ofTree t))

/-- without texts, the document of a tree says nothing about its symbols -/
theorem bare_document_rename (r : Symbol → Symbol) (t : ParseTree) :
    (document (ofTree (t.rename r))).bare = (document (ofTree t)).bare := by
  obtain ⟨hprimitives, hwidth, hheight⟩ := ofTree_rename r t (K := Float)
  simp only [document, Node.bare, allBare_nodes, hprimitives, attributes, hwidth, hheight]

end Drawing

open Drawing

/-- **Symbols cannot break a document.** The document of a tree is one element named `svg`, and the elements in it are those
of the primitives in their order. Undoing the entities in the elements named `text` gives back the texts. With other
symbols, whatever they are, the document has the same tags. -/
theorem toSvg_exact (t : ParseTree) :
    (∃ children,
      read t.toSvg = some [.element (tagText "svg" (ofTree t : Drawing Float).attributes) children] ∧
      children.filter Node.isElement = (ofTree t).primitives.map Primitive.element ∧
      children.filterMap Node.tagName? = (ofTree t : Drawing Float).primitives.map Primitive.tagName ∧
      children.filterMap Node.shown? = (labels (ofTree t : Drawing Float).primitives).map Label.text) ∧
    ∀ r, (read (t.rename r).toSvg).map Node.allBare = (read t.toSvg).map Node.allBare := by
  constructor
  · have hread : read t.toSvg = some [document (ofTree t)] := read_toSvg t
    exact ⟨nodes (ofTree t).primitives, hread, filter_isElement_nodes _, tagName?_nodes _, shown?_nodes _⟩
  · intro r
    rw [read_toSvg, read_toSvg]
    simp only [Option.map_some, Node.allBare, bare_document_rename]

end GrammarLab
