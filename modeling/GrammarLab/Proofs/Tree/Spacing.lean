/-
No overlap in a drawing, and no overflow.

Main statement, for a drawing with rational coordinates:
- `draw_spaced`: wherever a tree is drawn, it keeps to its columns, the roots of the subtrees of a node stand one to the
  right of the other, and two texts at one height are at least a column apart.
Each tree has an interval of its own, from its left edge to the base of its last column, with a gap of a column before
the next (`between_draw`). Two texts at one height come from different children of some node, since a child is drawn
lower than its parent and the strip is never at the height of a level (`Stands.ne`).
-/
import GrammarLab.Proofs.Tree.Columns
import Mathlib.Order.Interval.Set.Basic

namespace GrammarLab

namespace ParseTree

theorem totalWidth_le_width (s : Symbol) (cs : List ParseTree) : totalWidth cs ≤ (node s cs).width := Nat.le_max_right _ _

end ParseTree

namespace Drawing

open ParseTree Coordinate

variable {x y lo hi : ℚ} {levels : Int}

/-! ## Intervals -/

/-- all places of the primitive are between two columns -/
def Between (lo hi : ℚ) : Primitive ℚ → Prop
  | .text x _ _ _ => x ∈ Set.Icc lo hi
  | .lines _ strokes => ∀ l ∈ strokes, l.x1 ∈ Set.Icc lo hi ∧ l.x2 ∈ Set.Icc lo hi
  | .rect _ _ _ _ => False

theorem Between.mono {lo' hi' : ℚ} {p : Primitive ℚ} (h : Between lo hi p) (hlo : lo' ≤ lo) (hhi : hi ≤ hi') :
    Between lo' hi' p := by
  have hsub : Set.Icc lo hi ⊆ Set.Icc lo' hi' := Set.Icc_subset_Icc hlo hhi
  cases p with
  | text x y colour text => exact hsub h
  | lines colour strokes => exact fun l hl => ⟨hsub (h l hl).1, hsub (h l hl).2⟩
  | rect y width height colour => exact h

theorem median_mem {positions : List ℚ} (hne : positions ≠ []) (h : ∀ p ∈ positions, p ∈ Set.Icc lo hi) :
    median x positions ∈ Set.Icc lo hi := by
  have hlen : 0 < positions.length := List.length_pos_iff.2 hne
  have hbefore : (positions.length - 1) / 2 < positions.length := by omega
  have hmiddle : positions.length / 2 < positions.length := by omega
  have hlow : positions[(positions.length - 1) / 2]? = some positions[(positions.length - 1) / 2] :=
    List.getElem?_eq_getElem hbefore
  have hhigh : positions[positions.length / 2]? = some positions[positions.length / 2] := List.getElem?_eq_getElem hmiddle
  obtain ⟨ha, ha'⟩ := h _ (List.mem_of_getElem? hlow)
  obtain ⟨hb, hb'⟩ := h _ (List.mem_of_getElem? hhigh)
  simp only [median, hlow, hhigh, ofInt_eq]
  constructor
  · push_cast
    linarith
  · push_cast
    linarith

theorem between_nodePrimitives {s : Symbol} {root : ℚ} {positions : List ℚ} (hx : x ∈ Set.Icc lo hi)
    (hroot : root ∈ Set.Icc lo hi) (h : ∀ p ∈ positions, p ∈ Set.Icc lo hi) :
    ∀ p ∈ nodePrimitives s x y root positions, Between lo hi p := by
  intro p hp
  rcases List.mem_cons.1 hp with rfl | hp
  · exact hroot
  · split at hp
    · simp only [List.mem_cons, List.not_mem_nil, or_false] at hp
      rcases hp with rfl | rfl
      · exact hx
      · simpa [Between] using hx
    · obtain rfl := List.mem_singleton.1 hp
      intro l hl
      obtain ⟨q, hq, rfl⟩ := List.mem_map.1 hl
      exact ⟨hroot, h q hq⟩

theorem x_mem (x : ℚ) (t : ParseTree) : x ∈ Set.Icc x (x + 30 * (t.width - 1)) := by
  have hwidth : (1 : ℚ) ≤ t.width := by exact_mod_cast one_le_width t
  constructor
  · exact le_refl x
  · linarith

theorem columns_eq (n : Nat) : (ofInt (n * columnWidth) : ℚ) = 30 * n := by
  rw [ofInt_eq, columnWidth]
  push_cast
  ring

theorem positions_ne_nil (c : ParseTree) (cs : List ParseTree) (x y : ℚ) (levels : Int) :
    (drawAll (c :: cs) x y levels).2 ≠ [] := by
  simp [drawAll]

mutual

/-- a tree and its root keep to the columns of the tree -/
theorem between_draw : ∀ (t : ParseTree) (x y : ℚ) (levels : Int),
    (∀ p ∈ (draw t x y levels).1, Between x (x + 30 * (t.width - 1)) p) ∧
      (draw t x y levels).2 ∈ Set.Icc x (x + 30 * (t.width - 1))
  | .leaf s, x, y, levels => by
    have hx := x_mem x (.leaf s)
    refine ⟨?_, hx⟩
    intro p hp
    simp only [draw, leafPrimitives, List.mem_cons, List.not_mem_nil, or_false] at hp
    rcases hp with rfl | rfl | rfl
    · exact hx
    · exact hx
    · simpa [Between] using hx
  | .node s cs, x, y, levels => by
    obtain ⟨hbelow, hpositions⟩ := between_drawAll cs x (y + ofInt levelHeight) (levels - 1)
    have hx := x_mem x (.node s cs)
    have hwidth : x + 30 * ((totalWidth cs : ℚ) - 1) ≤ x + 30 * ((node s cs).width - 1) := by
      have : (totalWidth cs : ℚ) ≤ (node s cs).width := by exact_mod_cast totalWidth_le_width s cs
      linarith
    have hpositions' : ∀ r ∈ (drawAll cs x (y + ofInt levelHeight) (levels - 1)).2,
        r ∈ Set.Icc x (x + 30 * ((node s cs).width - 1)) :=
      fun r hr => Set.Icc_subset_Icc_right hwidth (hpositions r hr)
    have hroot : (draw (.node s cs) x y levels).2 ∈ Set.Icc x (x + 30 * ((node s cs).width - 1)) := by
      cases cs with
      | nil => exact hx
      | cons c cs => exact median_mem (positions_ne_nil c cs _ _ _) hpositions'
    refine ⟨?_, hroot⟩
    intro p hp
    rw [draw, List.mem_append] at hp
    rcases hp with hp | hp
    · exact (hbelow p hp).mono (le_refl x) hwidth
    · exact between_nodePrimitives hx hroot hpositions' p hp

/-- so do trees side by side -/
theorem between_drawAll : ∀ (cs : List ParseTree) (x y : ℚ) (levels : Int),
    (∀ p ∈ (drawAll cs x y levels).1, Between x (x + 30 * (totalWidth cs - 1)) p) ∧
      ∀ r ∈ (drawAll cs x y levels).2, r ∈ Set.Icc x (x + 30 * (totalWidth cs - 1))
  | [], x, y, levels => by simp [drawAll]
  | c :: cs, x, y, levels => by
    obtain ⟨hfirst, hroot⟩ := between_draw c x y levels
    obtain ⟨hothers, hroots⟩ := between_drawAll cs (x + ofInt (c.width * columnWidth)) y levels
    have hedge : x + ofInt (c.width * columnWidth) + 30 * ((totalWidth cs : ℚ) - 1) =
        x + 30 * ((totalWidth (c :: cs) : ℚ) - 1) := by
      rw [columns_eq, totalWidth]
      push_cast
      ring
    have hleft : x ≤ x + ofInt (c.width * columnWidth) := by
      have : (0 : ℚ) ≤ c.width := Nat.cast_nonneg _
      rw [columns_eq]
      linarith
    have hright : x + 30 * ((c.width : ℚ) - 1) ≤ x + 30 * ((totalWidth (c :: cs) : ℚ) - 1) := by
      have : (0 : ℚ) ≤ totalWidth cs := Nat.cast_nonneg _
      rw [totalWidth]
      push_cast
      linarith
    rw [hedge] at hothers hroots
    rw [drawAll]
    constructor
    · intro p hp
      rcases List.mem_append.1 hp with hp | hp
      · exact (hfirst p hp).mono (le_refl x) hright
      · exact (hothers p hp).mono hleft (le_refl _)
    · intro r hr
      rcases List.mem_cons.1 hr with rfl | hr
      · exact Set.Icc_subset_Icc_right hright hroot
      · exact Set.Icc_subset_Icc_left hleft (hroots r hr)

end

/-- from a tree to the tree on its right there is a column's width -/
theorem add_le_of_next {c : ParseTree} {a b hi : ℚ} (ha : a ∈ Set.Icc x (x + 30 * (c.width - 1)))
    (hb : b ∈ Set.Icc (x + ofInt (c.width * columnWidth)) hi) : a + 30 ≤ b := by
  obtain ⟨-, ha⟩ := ha
  obtain ⟨hb, -⟩ := hb
  rw [columns_eq] at hb
  linarith

theorem pairwise_positions (cs : List ParseTree) (x y : ℚ) (levels : Int) :
    (drawAll cs x y levels).2.Pairwise fun a b => a + 30 ≤ b := by
  induction cs generalizing x with
  | nil => exact List.Pairwise.nil
  | cons c cs ih =>
    rw [drawAll, List.pairwise_cons]
    refine ⟨fun b hb => ?_, ih _⟩
    exact add_le_of_next (between_draw c x y levels).2 ((between_drawAll cs _ y levels).2 b hb)

/-! ## Texts at one height -/

/-- a height where the texts of a tree may be: on a level at or below its root, or in the strip -/
def Stands (y : ℚ) (levels : Int) (height : ℚ) : Prop :=
  (∃ e : Nat, height = y + 45 * e) ∨ height = y + 45 * levels - 10

/-- the strip is not at the height of the root -/
theorem strip_ne (y : ℚ) (levels : Int) : y ≠ y + 45 * levels - 10 := by
  intro h
  have hten : (45 : ℚ) * levels = 10 := by linarith
  have hint : 45 * levels = 10 := by exact_mod_cast hten
  omega

/-- what stands below a level stands below the level above it as well, but not on it -/
theorem Stands.above {height : ℚ} (h : Stands (y + ofInt levelHeight) (levels - 1) height) :
    Stands y levels height ∧ height ≠ y := by
  rw [ofInt_eq, levelHeight] at h
  rcases h with ⟨e, rfl⟩ | rfl
  · have he : (0 : ℚ) ≤ e := Nat.cast_nonneg e
    refine ⟨Or.inl ⟨e + 1, by push_cast; ring⟩, ?_⟩
    intro h
    push_cast at h
    linarith
  · have hstrip : y + ((45 : Int) : ℚ) + 45 * ((levels - 1 : Int) : ℚ) - 10 = y + 45 * levels - 10 := by
      push_cast
      ring
    rw [hstrip]
    exact ⟨Or.inr rfl, (strip_ne y levels).symm⟩

mutual

theorem stands_draw {l : Label ℚ} : ∀ (t : ParseTree) (x y : ℚ) (levels : Int), l ∈ labels (draw t x y levels).1 →
    Stands y levels l.y
  | .leaf s, x, y, levels, h => by
    rw [draw, labels_leafPrimitives, List.mem_cons, List.mem_singleton] at h
    rcases h with rfl | rfl
    · exact Or.inl ⟨0, by simp⟩
    · refine Or.inr ?_
      simp only [ofInt_eq, levelHeight]
      push_cast
      ring
  | .node s cs, x, y, levels, h => by
    rw [draw, labels_append, List.mem_append, labels_nodePrimitives, List.mem_cons] at h
    rcases h with h | rfl | h
    · exact (stands_drawAll cs _ _ _ h).above.1
    · exact Or.inl ⟨0, by simp⟩
    · split_ifs at h
      · obtain rfl := List.mem_singleton.1 h
        exact Or.inl ⟨1, by simp [ofInt_eq, levelHeight]⟩
      · cases h

theorem stands_drawAll {l : Label ℚ} : ∀ (cs : List ParseTree) (x y : ℚ) (levels : Int),
    l ∈ labels (drawAll cs x y levels).1 → Stands y levels l.y
  | [], _, _, _, h => by simp [drawAll, labels] at h
  | c :: cs, x, y, levels, h => by
    rw [drawAll, labels_append, List.mem_append] at h
    rcases h with h | h
    · exact stands_draw c _ _ _ h
    · exact stands_drawAll cs _ _ _ h

end

/-- two texts at one height are a column apart -/
def Apart (l m : Label ℚ) : Prop := l.y = m.y → 30 ≤ |l.x - m.x|

theorem x_mem_of_mem_labels {ps : List (Primitive ℚ)} (h : ∀ p ∈ ps, Between lo hi p) {l : Label ℚ} (hl : l ∈ labels ps) :
    l.x ∈ Set.Icc lo hi := by
  obtain ⟨p, hp, hlabel⟩ := List.mem_filterMap.1 hl
  have hbetween := h p hp
  cases p with
  | text x y colour text =>
    obtain rfl := Option.some.inj hlabel
    exact hbetween
  | lines colour strokes => cases hlabel
  | rect y width height colour => cases hlabel

theorem apart_nodePrimitives (s : Symbol) (x y root : ℚ) (positions : List ℚ) :
    (labels (nodePrimitives s x y root positions)).Pairwise Apart := by
  rw [labels_nodePrimitives, List.pairwise_cons]
  constructor
  · intro m hm heq
    split_ifs at hm
    · obtain rfl := List.mem_singleton.1 hm
      simp [ofInt_eq, levelHeight] at heq
    · cases hm
  · split_ifs
    · exact List.pairwise_singleton _ _
    · exact List.Pairwise.nil

mutual

theorem apart_draw : ∀ (t : ParseTree) (x y : ℚ) (levels : Int), (labels (draw t x y levels).1).Pairwise Apart
  | .leaf s, x, y, levels => by
    rw [draw, labels_leafPrimitives, List.pairwise_pair]
    intro h
    refine absurd ?_ (strip_ne y levels)
    simp only [ofInt_eq, levelHeight] at h
    push_cast at h
    linarith
  | .node s cs, x, y, levels => by
    rw [draw, labels_append, List.pairwise_append]
    refine ⟨apart_drawAll cs _ _ _, apart_nodePrimitives _ _ _ _ _, ?_⟩
    intro l hl m hm heq
    have hbelow : l.y ≠ y := (stands_drawAll cs _ _ _ hl).above.2
    rw [labels_nodePrimitives, List.mem_cons] at hm
    rcases hm with rfl | hm
    · exact absurd heq hbelow
    · cases cs with
      | nil => simp [drawAll, labels] at hl
      | cons c cs => simp [drawAll] at hm

theorem apart_drawAll : ∀ (cs : List ParseTree) (x y : ℚ) (levels : Int),
    (labels (drawAll cs x y levels).1).Pairwise Apart
  | [], _, _, _ => List.Pairwise.nil
  | c :: cs, x, y, levels => by
    rw [drawAll, labels_append, List.pairwise_append]
    refine ⟨apart_draw c _ _ _, apart_drawAll cs _ _ _, ?_⟩
    intro l hl m hm _
    have hl' := x_mem_of_mem_labels (between_draw c x y levels).1 hl
    have hm' := x_mem_of_mem_labels (between_drawAll cs _ y levels).1 hm
    have hnext := add_le_of_next hl' hm'
    rw [abs_sub_comm]
    exact le_trans (by linarith) (le_abs_self _)

end

/-- **No overlap and no overflow.** Wherever a tree is drawn, its root and all that is drawn stay within the columns of
the tree; the roots of the subtrees of its root stand one to the right of the other; and any two of its texts at one
height, those in the strip included, are at least a column apart. -/
theorem draw_spaced (t : ParseTree) (x y : ℚ) (levels : Int) :
    (draw t x y levels).2 ∈ Set.Icc x (x + 30 * (t.width - 1)) ∧
      (∀ p ∈ (draw t x y levels).1, Between x (x + 30 * (t.width - 1)) p) ∧
      (drawAll t.children x (y + 45) (levels - 1)).2.Pairwise (· < ·) ∧
      (labels (draw t x y levels).1).Pairwise fun l m => l.y = m.y → 30 ≤ |l.x - m.x| := by
  obtain ⟨hprimitives, hroot⟩ := between_draw t x y levels
  refine ⟨hroot, hprimitives, ?_, apart_draw t x y levels⟩
  refine (pairwise_positions t.children x (y + 45) (levels - 1)).imp ?_
  intro a b hab
  linarith

end Drawing

end GrammarLab
