/-
The columns of a drawing and the strip below it.

`ParseTree.fringe` lists what a tree ends in from left to right, its terminals and the signs below nodes without
children, each with its level. For a drawing with rational coordinates:
- `leafLabels_draw`: wherever a tree is drawn, its fringe takes one column after another, and every terminal stands in its
  column a second time at the height of the strip;
- `ofTree_leaves`: so the leaves of a whole drawing stand in the columns from the left edge on, and the strip shows the
  sentence.
-/
import GrammarLab.Tree.Drawing
import Mathlib.Algebra.Order.Ring.Rat
import Mathlib.Data.List.Basic
import Mathlib.Tactic.Linarith
import Mathlib.Tactic.Ring

namespace GrammarLab

instance : Coordinate ℚ where
  ofInt n := n

/-- what a tree ends in at some level: a terminal, or nothing below a node without children -/
structure Tip where
  level : Nat
  terminal? : Option Symbol

namespace ParseTree

mutual

/-- the ends of a tree from left to right, if its root is at `level` -/
def fringe (level : Nat) : ParseTree → List Tip
  | leaf s => [⟨level, some s⟩]
  | node _ [] => [⟨level + 1, none⟩]
  | node _ (c :: cs) => c.fringe (level + 1) ++ allFringes (level + 1) cs

/-- the ends of trees side by side -/
def allFringes (level : Nat) : List ParseTree → List Tip
  | [] => []
  | c :: cs => c.fringe level ++ allFringes level cs

end

end ParseTree

namespace Drawing

variable {K : Type}

/-- a text of a drawing with its place and its colour -/
structure Label (K : Type) where
  x : K
  y : K
  colour : String
  text : String

/-- the text that a primitive puts on the drawing -/
def label? : Primitive K → Option (Label K)
  | .text x y colour text => some ⟨x, y, colour, text⟩
  | .lines _ _ => none
  | .rect _ _ _ _ => none

/-- the texts in the order in which they are painted -/
def labels (primitives : List (Primitive K)) : List (Label K) := primitives.filterMap label?

/-- the texts other than those of nodes -/
def leafLabels (primitives : List (Primitive K)) : List (Label K) :=
  (labels primitives).filter fun l => l.colour ≠ nodeColour

end Drawing

namespace Tip

open Drawing

def colour (tip : Tip) : String := if tip.terminal?.isSome then leafColour else emptyColour

def text (tip : Tip) : String := tip.terminal?.getD "ε"

/-- a tip in column `k`, if the root of its tree is drawn at `x` and `y` -/
def label (x y : ℚ) (tip : Tip) (k : Nat) : Label ℚ := ⟨x + 30 * k, y + 45 * tip.level, tip.colour, tip.text⟩

/-- a terminal in column `k` of the strip, `levels` below the root -/
def copy? (x y : ℚ) (levels : Int) (tip : Tip) (k : Nat) : Option (Label ℚ) :=
  tip.terminal?.map fun s => ⟨x + 30 * k, y + 45 * levels - 10, leafColour, s⟩

end Tip

namespace ParseTree

theorem one_le_width (t : ParseTree) : 1 ≤ t.width := by
  cases t with
  | leaf s => exact Nat.le_refl _
  | node s cs => exact Nat.le_max_left _ _

theorem one_add_maxHeight_le_height (s : Symbol) (cs : List ParseTree) : 1 + maxHeight cs ≤ (node s cs).height := by
  cases cs with
  | nil => exact Nat.le_succ _
  | cons c cs => exact Nat.le_refl _

mutual

/-- there is one end for every column -/
theorem length_fringe (level : Nat) : ∀ t : ParseTree, (t.fringe level).length = t.width
  | leaf _ => rfl
  | node _ [] => rfl
  | node _ (c :: cs) => by
    have hwidth := one_le_width c
    rw [fringe, List.length_append, length_fringe (level + 1) c, length_allFringes (level + 1) cs, width, totalWidth]
    omega

theorem length_allFringes (level : Nat) : ∀ cs : List ParseTree, (allFringes level cs).length = totalWidth cs
  | [] => rfl
  | c :: cs => by rw [allFringes, List.length_append, length_fringe level c, length_allFringes level cs, totalWidth]

end

mutual

theorem level_lt_of_mem_fringe {tip : Tip} {level : Nat} : ∀ {t : ParseTree}, tip ∈ t.fringe level →
    tip.level < level + t.height
  | leaf _, h => by
    obtain rfl := List.mem_singleton.1 h
    simp [height]
  | node _ [], h => by
    obtain rfl := List.mem_singleton.1 h
    simp [height]
  | node _ (c :: cs), h => by
    rw [fringe, List.mem_append] at h
    rw [height]
    rcases h with h | h
    · have := level_lt_of_mem_fringe h
      omega
    · have := level_lt_of_mem_allFringes h
      omega

theorem level_lt_of_mem_allFringes {tip : Tip} {level : Nat} : ∀ {cs : List ParseTree}, tip ∈ allFringes level cs →
    tip.level < level + maxHeight cs
  | [], h => by simp [allFringes] at h
  | c :: cs, h => by
    rw [allFringes, List.mem_append] at h
    rw [maxHeight]
    rcases h with h | h
    · have := level_lt_of_mem_fringe h
      omega
    · have := level_lt_of_mem_allFringes h
      omega

end

mutual

/-- the terminals at the ends are the leaves -/
theorem filterMap_terminal?_fringe (level : Nat) : ∀ t : ParseTree, (t.fringe level).filterMap Tip.terminal? = t.leaves
  | leaf _ => rfl
  | node _ [] => rfl
  | node _ (c :: cs) => by
    rw [fringe, List.filterMap_append, filterMap_terminal?_fringe (level + 1) c,
      filterMap_terminal?_allFringes (level + 1) cs, leaves, allLeaves]

theorem filterMap_terminal?_allFringes (level : Nat) : ∀ cs : List ParseTree,
    (allFringes level cs).filterMap Tip.terminal? = allLeaves cs
  | [] => rfl
  | c :: cs => by
    rw [allFringes, List.filterMap_append, filterMap_terminal?_fringe level c, filterMap_terminal?_allFringes level cs,
      allLeaves]

end

/-- ends on different levels, one of them below a node without children -/
example : (fringe 0 (.node "S" [.leaf "a", .node "A" [], .node "B" [.node "C" [.leaf "b"]]])).map
    (fun tip => (tip.level, tip.text)) = [(1, "a"), (2, "ε"), (3, "b")] := rfl

end ParseTree

namespace Drawing

open ParseTree Coordinate

/-! ## Drawing a tree at a place -/

theorem ofInt_eq (n : Int) : (ofInt n : ℚ) = n := rfl

theorem labels_append (ps qs : List (Primitive K)) : labels (ps ++ qs) = labels ps ++ labels qs :=
  List.filterMap_append

theorem leafLabels_append (ps qs : List (Primitive K)) : leafLabels (ps ++ qs) = leafLabels ps ++ leafLabels qs := by
  rw [leafLabels, labels_append, List.filter_append]
  rfl

/-- what the fringe shows from column `k` on -/
def shown (x y : ℚ) (levels : Int) (k : Nat) (tips : List Tip) : List (Label ℚ) :=
  (tips.zipIdx k).flatMap fun p => p.1.label x y p.2 :: (p.1.copy? x y levels p.2).toList

theorem shown_append (x y : ℚ) (levels : Int) (k : Nat) (tips more : List Tip) :
    shown x y levels k (tips ++ more) = shown x y levels k tips ++ shown x y levels (k + tips.length) more := by
  rw [shown, List.zipIdx_append, List.flatMap_append]
  rfl

theorem labels_leafPrimitives (s : Symbol) (x y : ℚ) (levels : Int) :
    labels (leafPrimitives s x y levels) =
      [⟨x, y, leafColour, s⟩, ⟨x, y + ofInt (levels * levelHeight) - ofInt 10, leafColour, s⟩] := rfl

theorem labels_nodePrimitives (s : Symbol) (x y root : ℚ) (positions : List ℚ) :
    labels (nodePrimitives s x y root positions) = ⟨root, y, nodeColour, s⟩ ::
      if positions.isEmpty then [⟨x, y + ofInt levelHeight, emptyColour, "ε"⟩] else [] := by
  cases positions <;> rfl

/-- a node shows its name, and the sign below it if it has no children -/
theorem leafLabels_nodePrimitives (s : Symbol) (x y root : ℚ) (positions : List ℚ) :
    leafLabels (nodePrimitives s x y root positions) =
      if positions.isEmpty then [⟨x, y + ofInt levelHeight, emptyColour, "ε"⟩] else [] := by
  cases positions <;> rfl

/-- the level below level `d` -/
theorem below_eq (y : ℚ) (d : Nat) : y + 45 * d + ofInt levelHeight = y + 45 * ((d + 1 : Nat) : ℚ) := by
  rw [ofInt_eq, levelHeight]
  push_cast
  ring

theorem levels_eq (levels : Int) (d : Nat) : levels - d - 1 = levels - (d + 1 : Nat) := by
  push_cast
  ring

variable {x y : ℚ} {levels : Int}

mutual

theorem leafLabels_draw : ∀ (t : ParseTree) (k d : Nat),
    leafLabels (draw t (x + 30 * k) (y + 45 * d) (levels - d)).1 = shown x y levels k (t.fringe d)
  | .leaf s, k, d => by
    have hbase : y + 45 * (d : ℚ) + ofInt ((levels - d) * levelHeight) - ofInt 10 = y + 45 * levels - 10 := by
      rw [ofInt_eq, ofInt_eq, levelHeight]
      push_cast
      ring
    rw [draw, leafPrimitives, hbase]
    rfl
  | .node s [], k, d => by
    rw [draw, drawAll, leafLabels_append, leafLabels_nodePrimitives, below_eq]
    rfl
  | .node s (c :: cs), k, d => by
    have hchildren := leafLabels_drawAll (c :: cs) k (d + 1)
    have hroots : (drawAll (c :: cs) (x + 30 * k) (y + 45 * ((d + 1 : Nat) : ℚ)) (levels - (d + 1 : Nat))).2.isEmpty =
        false := by
      rw [drawAll]
      rfl
    rw [draw, below_eq, levels_eq, leafLabels_append, leafLabels_nodePrimitives, hroots, hchildren]
    exact List.append_nil _

theorem leafLabels_drawAll : ∀ (cs : List ParseTree) (k d : Nat),
    leafLabels (drawAll cs (x + 30 * k) (y + 45 * d) (levels - d)).1 = shown x y levels k (allFringes d cs)
  | [], k, d => rfl
  | c :: cs, k, d => by
    have hnext : x + 30 * k + ofInt (c.width * columnWidth) = x + 30 * ((k + c.width : Nat) : ℚ) := by
      rw [ofInt_eq, columnWidth]
      push_cast
      ring
    rw [drawAll, leafLabels_append, leafLabels_draw c k d, hnext, leafLabels_drawAll cs (k + c.width) d, allFringes,
      shown_append, length_fringe]

end

/-! ## The names of nodes -/

theorem leafColour_ne_nodeColour : leafColour ≠ nodeColour := by decide

theorem emptyColour_ne_nodeColour : emptyColour ≠ nodeColour := by decide

theorem y_eq_of_mem_nodePrimitives {s : Symbol} {x y root : ℚ} {positions : List ℚ} {l : Label ℚ}
    (h : l ∈ labels (nodePrimitives s x y root positions)) (hcolour : l.colour = nodeColour) : l.y = y := by
  rw [labels_nodePrimitives, List.mem_cons] at h
  rcases h with rfl | h
  · rfl
  · split_ifs at h
    · obtain rfl := List.mem_singleton.1 h
      exact absurd hcolour emptyColour_ne_nodeColour
    · cases h

mutual

/-- the name of a node stands on one of the levels of the tree -/
theorem exists_level_of_mem_draw {l : Label ℚ} (hcolour : l.colour = nodeColour) : ∀ (t : ParseTree) (x : ℚ) (levels : Int)
    (d : Nat), l ∈ labels (draw t x (y + 45 * d) levels).1 → ∃ e < d + t.height, l.y = y + 45 * (e : ℚ)
  | .leaf s, x, levels, d, h => by
    rw [draw, labels_leafPrimitives, List.mem_cons, List.mem_singleton] at h
    rcases h with rfl | rfl
    · exact absurd hcolour leafColour_ne_nodeColour
    · exact absurd hcolour leafColour_ne_nodeColour
  | .node s cs, x, levels, d, h => by
    have hheight := one_add_maxHeight_le_height s cs
    rw [draw, labels_append, List.mem_append] at h
    rcases h with h | h
    · rw [below_eq] at h
      obtain ⟨e, he, hy⟩ := exists_level_of_mem_drawAll hcolour cs x (levels - 1) (d + 1) h
      exact ⟨e, by omega, hy⟩
    · exact ⟨d, by omega, y_eq_of_mem_nodePrimitives h hcolour⟩

theorem exists_level_of_mem_drawAll {l : Label ℚ} (hcolour : l.colour = nodeColour) : ∀ (cs : List ParseTree) (x : ℚ)
    (levels : Int) (d : Nat), l ∈ labels (drawAll cs x (y + 45 * d) levels).1 →
      ∃ e < d + maxHeight cs, l.y = y + 45 * (e : ℚ)
  | [], x, levels, d, h => by simp [drawAll, labels] at h
  | c :: cs, x, levels, d, h => by
    rw [drawAll, labels_append, List.mem_append] at h
    rw [maxHeight]
    rcases h with h | h
    · obtain ⟨e, he, hy⟩ := exists_level_of_mem_draw hcolour c x levels d h
      exact ⟨e, by omega, hy⟩
    · obtain ⟨e, he, hy⟩ := exists_level_of_mem_drawAll hcolour cs _ levels d h
      exact ⟨e, by omega, hy⟩

end

/-! ## The whole drawing -/

theorem primitives_ofTree (t : ParseTree) : (ofTree t : Drawing ℚ).primitives =
    .rect 0 (30 * t.width) (45 * t.height) boxColour :: .rect (45 * t.height) (30 * t.width) 30 stripColour ::
      (draw t (15 : ℚ) 30 t.height).1 := by
  have hx : ofInt columnWidth / ofInt 2 = (15 : ℚ) := by
    rw [ofInt_eq, ofInt_eq, columnWidth]
    norm_num
  have hwidth : ofInt (t.width * columnWidth) = (30 * t.width : ℚ) := by
    rw [ofInt_eq, columnWidth]
    push_cast
    ring
  have hheight : ofInt (t.height * levelHeight) = (45 * t.height : ℚ) := by
    rw [ofInt_eq, levelHeight]
    push_cast
    ring
  simp only [ofTree, hx, hwidth, hheight]
  norm_num [ofInt_eq, stripHeight]

/-- the leaves in the box -/
def boxLeaves (t : ParseTree) : List (Label ℚ) :=
  (leafLabels (ofTree t : Drawing ℚ).primitives).filter fun l => l.y < 45 * t.height

/-- the texts in the strip, whatever their colour -/
def stripLabels (t : ParseTree) : List (Label ℚ) :=
  (labels (ofTree t : Drawing ℚ).primitives).filter fun l => 45 * t.height ≤ l.y

theorem leafLabels_ofTree (t : ParseTree) :
    leafLabels (ofTree t : Drawing ℚ).primitives = shown 15 30 t.height 0 (t.fringe 0) := by
  have h : leafLabels (draw t ((15 : ℚ) + 30 * (0 : Nat)) (30 + 45 * (0 : Nat)) (t.height - (0 : Nat))).1 =
      shown 15 30 t.height 0 (t.fringe 0) := leafLabels_draw t 0 0
  simp only [Nat.cast_zero, mul_zero, add_zero, sub_zero] at h
  rw [primitives_ofTree]
  exact h

theorem y_label_lt {tip : Tip} {n : Nat} (h : tip.level < n) (k : Nat) : (tip.label 15 30 k).y < 45 * n := by
  have hnext : (tip.level : ℚ) + 1 ≤ n := by exact_mod_cast h
  change (30 : ℚ) + 45 * tip.level < 45 * n
  linarith

theorem copy?_eq (tip : Tip) (n k : Nat) :
    tip.copy? 15 30 n k = tip.terminal?.map fun s => ⟨15 + 30 * k, 45 * n + 20, leafColour, s⟩ := by
  have hy : (30 : ℚ) + 45 * ((n : Int) : ℚ) - 10 = 45 * n + 20 := by
    push_cast
    ring
  rw [Tip.copy?, hy]

theorem y_eq_of_mem_copy? {tip : Tip} {n k : Nat} {l : Label ℚ} (h : l ∈ tip.copy? 15 30 n k) : l.y = 45 * n + 20 := by
  rw [copy?_eq] at h
  obtain ⟨s, -, rfl⟩ := Option.map_eq_some_iff.1 h
  rfl

/-- of what a tip shows, the label is in the box -/
theorem filter_tip_box {tip : Tip} {n : Nat} (h : tip.level < n) (k : Nat) :
    ((tip.label 15 30 k :: (tip.copy? 15 30 n k).toList).filter fun l => l.y < 45 * (n : ℚ)) = [tip.label 15 30 k] := by
  have hcopy : ((tip.copy? 15 30 n k).toList.filter fun l => l.y < 45 * (n : ℚ)) = [] := by
    refine List.filter_eq_nil_iff.2 fun l hl => ?_
    rw [y_eq_of_mem_copy? (Option.mem_toList.1 hl), decide_eq_true_eq]
    linarith
  rw [List.filter_cons, hcopy, if_pos (decide_eq_true (y_label_lt h k))]

/-- and the copy is in the strip -/
theorem filter_tip_strip {tip : Tip} {n : Nat} (h : tip.level < n) (k : Nat) :
    ((tip.label 15 30 k :: (tip.copy? 15 30 n k).toList).filter fun l => 45 * (n : ℚ) ≤ l.y) =
      (tip.copy? 15 30 n k).toList := by
  have hcopy : ((tip.copy? 15 30 n k).toList.filter fun l => 45 * (n : ℚ) ≤ l.y) = (tip.copy? 15 30 n k).toList := by
    refine List.filter_eq_self.2 fun l hl => ?_
    rw [y_eq_of_mem_copy? (Option.mem_toList.1 hl), decide_eq_true_eq]
    linarith
  rw [List.filter_cons, hcopy, if_neg (by simpa using y_label_lt h k)]

theorem level_lt_of_mem_zipIdx {t : ParseTree} {p : Tip × Nat} (hp : p ∈ (t.fringe 0).zipIdx) : p.1.level < t.height := by
  simpa using level_lt_of_mem_fringe (List.fst_mem_of_mem_zipIdx hp)

theorem boxLeaves_eq (t : ParseTree) : boxLeaves t = (t.fringe 0).mapIdx fun k tip => tip.label 15 30 k := by
  rw [boxLeaves, leafLabels_ofTree, shown, List.filter_flatMap, List.mapIdx_eq_zipIdx_map, List.map_eq_flatMap]
  exact List.flatMap_congr fun p hp => filter_tip_box (level_lt_of_mem_zipIdx hp) p.2

theorem y_lt_of_colour_eq {t : ParseTree} {l : Label ℚ} (h : l ∈ labels (ofTree t : Drawing ℚ).primitives)
    (hcolour : l.colour = nodeColour) : l.y < 45 * t.height := by
  rw [primitives_ofTree] at h
  have hdraw : l ∈ labels (draw t (15 : ℚ) (30 + 45 * (0 : Nat)) t.height).1 := by
    rw [Nat.cast_zero, mul_zero, add_zero]
    exact h
  obtain ⟨e, he, hy⟩ := exists_level_of_mem_draw hcolour t 15 t.height 0 hdraw
  have hnext : (e : ℚ) + 1 ≤ t.height := by exact_mod_cast (Nat.zero_add t.height ▸ he)
  rw [hy]
  linarith

/-- nothing but copies is in the strip -/
theorem stripLabels_eq (t : ParseTree) :
    stripLabels t = (t.fringe 0).zipIdx.filterMap fun p => p.1.copy? 15 30 t.height p.2 := by
  have hleaf : stripLabels t =
      (leafLabels (ofTree t : Drawing ℚ).primitives).filter fun l => 45 * (t.height : ℚ) ≤ l.y := by
    rw [leafLabels, List.filter_filter, stripLabels]
    refine List.filter_congr fun l hl => ?_
    by_cases hcolour : l.colour = nodeColour
    · simpa [hcolour] using y_lt_of_colour_eq hl hcolour
    · simp [hcolour]
  rw [hleaf, leafLabels_ofTree, shown, List.filter_flatMap, List.filterMap_eq_flatMap_toList]
  exact List.flatMap_congr fun p hp => filter_tip_strip (level_lt_of_mem_zipIdx hp) p.2

theorem pairwise_zipIdx {α : Type} (l : List α) : l.zipIdx.Pairwise fun a b => a.2 < b.2 := by
  have hsorted : (l.zipIdx.map Prod.snd).Pairwise (· < ·) := by
    rw [List.zipIdx_map_snd]
    exact List.pairwise_lt_range'
  exact List.pairwise_map.1 hsorted

theorem pairwise_stripLabels (t : ParseTree) : ((stripLabels t).map (·.x)).Pairwise (· < ·) := by
  rw [stripLabels_eq, List.pairwise_map, List.pairwise_filterMap]
  refine (pairwise_zipIdx _).imp fun {p q} hpq l hl m hm => ?_
  obtain ⟨_, -, rfl⟩ := Option.map_eq_some_iff.1 hl
  obtain ⟨_, -, rfl⟩ := Option.map_eq_some_iff.1 hm
  have hnext : (p.2 : ℚ) < q.2 := by exact_mod_cast hpq
  change (15 : ℚ) + 30 * p.2 < 15 + 30 * q.2
  linarith

/-- the strip shows the terminals, one after another -/
theorem map_text_stripLabels (t : ParseTree) : (stripLabels t).map (·.text) = t.leaves := by
  have htext : ∀ p : Tip × Nat, (p.1.copy? 15 30 t.height p.2).map (·.text) = p.1.terminal? := fun p => by
    rw [Tip.copy?, Option.map_map]
    exact Option.map_id'
  rw [stripLabels_eq, List.map_filterMap, List.filterMap_congr fun p _ => htext p, ← filterMap_terminal?_fringe 0 t]
  conv_rhs => rw [← List.zipIdx_map_fst 0 (t.fringe 0), List.filterMap_map]
  rfl

/-- **The leaves of a drawing and the strip.** The leaves of a tree, its terminals and the signs below nodes without
children, stand in the columns of the box from left to right, one in each, and the strip below holds the terminals again,
each in its column and all at one height, so that it shows the sentence. -/
theorem ofTree_leaves (t : ParseTree) :
    boxLeaves t = (t.fringe 0).mapIdx (fun k tip => ⟨15 + 30 * k, 30 + 45 * tip.level, tip.colour, tip.text⟩) ∧
      (t.fringe 0).length = t.width ∧
      .rect (45 * t.height) (30 * t.width) 30 stripColour ∈ (ofTree t : Drawing ℚ).primitives ∧
      stripLabels t = (t.fringe 0).zipIdx.filterMap (fun p => p.1.terminal?.map fun s =>
        ⟨15 + 30 * p.2, 45 * t.height + 20, leafColour, s⟩) ∧
      ((stripLabels t).map (·.x)).Pairwise (· < ·) ∧ String.join ((stripLabels t).map (·.text)) = t.sentence := by
  refine ⟨boxLeaves_eq t, length_fringe 0 t, ?_, ?_, pairwise_stripLabels t, ?_⟩
  · rw [primitives_ofTree]
    exact List.mem_cons_of_mem _ List.mem_cons_self
  · rw [stripLabels_eq]
    exact List.filterMap_congr fun p _ => copy?_eq p.1 t.height p.2
  · rw [map_text_stripLabels, sentence]

end Drawing

end GrammarLab
