/-
The nodes of a tree by their addresses.

A node is told by the way to it: which child of the root, which child of that, and so on. Equal subtrees stand at
different addresses.
- `places` lists the addresses in preorder, and `parts` what stands there (`part?_places`); they are all the addresses of
  the tree (`mem_places_iff`), in dictionary order (`pairwise_places`);
- `number` is the place of an address in that list; `branches` lists for every node but the root its parent and its place
  among the children of the parent, in the order in which the subtrees come to an end. The branches from a node go to its
  children from left to right (`filter_branches`).
-/
import GrammarLab.Tree.Basic
import Mathlib.Data.List.Basic
import Mathlib.Data.List.Range
import Mathlib.Order.Basic

namespace GrammarLab.ParseTree

/-- what stands at an address -/
def part? (t : ParseTree) : List Nat → Option ParseTree
  | [] => some t
  | i :: p => t.children[i]?.bind fun c => c.part? p

/-- the address of the same node if there is one more child before -/
def next : List Nat → List Nat
  | [] => []
  | i :: p => (i + 1) :: p

mutual

/-- the addresses in a tree, a node before its children and these from left to right -/
def places : ParseTree → List (List Nat)
  | leaf _ => [[]]
  | node _ cs => [] :: allPlaces cs

/-- the addresses in the trees below a node -/
def allPlaces : List ParseTree → List (List Nat)
  | [] => []
  | c :: cs => c.places.map (0 :: ·) ++ (allPlaces cs).map next

end

mutual

/-- the parts of a tree, the whole before those of its children and these from left to right -/
def parts : ParseTree → List ParseTree
  | leaf s => [leaf s]
  | node s cs => node s cs :: allParts cs

/-- the parts of trees side by side -/
def allParts : List ParseTree → List ParseTree
  | [] => []
  | c :: cs => c.parts ++ allParts cs

end

/-- the number of the node at an address, if nodes are counted from zero in preorder -/
def number (t : ParseTree) (p : List Nat) : Nat := t.places.idxOf p

/-- a branch if there is one more child before -/
def nextBranch : List Nat × Nat → List Nat × Nat
  | ([], i) => ([], i + 1)
  | (j :: p, i) => ((j + 1) :: p, i)

mutual

/-- for every node but the root the address of its parent and its place among the children of the parent, in the order in
which the subtrees come to an end -/
def branches : ParseTree → List (List Nat × Nat)
  | leaf _ => []
  | node _ cs => allBranches cs

/-- the branches from a node to the trees below it and in these trees -/
def allBranches : List ParseTree → List (List Nat × Nat)
  | [] => []
  | c :: cs => c.branches.map (fun b => (0 :: b.1, b.2)) ++ ([], 0) :: (allBranches cs).map nextBranch

end

variable {s : Symbol} {t u c : ParseTree} {cs : List ParseTree} {p q : List Nat} {i j : Nat}

/-! ## Addresses in preorder -/

@[simp] theorem part?_nil (t : ParseTree) : t.part? [] = some t := rfl

@[simp] theorem part?_leaf_cons (s : Symbol) (i : Nat) (p : List Nat) : (leaf s).part? (i :: p) = none := rfl

@[simp] theorem part?_node_cons (s : Symbol) (cs : List ParseTree) (i : Nat) (p : List Nat) :
    (node s cs).part? (i :: p) = cs[i]?.bind fun c => c.part? p := rfl

theorem part?_append (t : ParseTree) (p q : List Nat) : t.part? (p ++ q) = (t.part? p).bind fun u => u.part? q := by
  induction p generalizing t with
  | nil => rfl
  | cons i p ih =>
    rw [List.cons_append, part?, part?]
    cases t.children[i]? with
    | none => rfl
    | some c => exact ih c

theorem mem_allPlaces_iff : p ∈ allPlaces cs ↔ ∃ i q c, p = i :: q ∧ cs[i]? = some c ∧ q ∈ c.places := by
  induction cs generalizing p with
  | nil => simp [allPlaces]
  | cons d cs ih =>
    rw [allPlaces, List.mem_append, List.mem_map, List.mem_map]
    constructor
    · rintro (⟨q, hq, rfl⟩ | ⟨p', hp', rfl⟩)
      · exact ⟨0, q, d, rfl, rfl, hq⟩
      · obtain ⟨i, q, c, rfl, hc, hq⟩ := ih.1 hp'
        exact ⟨i + 1, q, c, rfl, hc, hq⟩
    · rintro ⟨i, q, c, rfl, hc, hq⟩
      cases i with
      | zero =>
        obtain rfl : d = c := Option.some.inj hc
        exact Or.inl ⟨q, hq, rfl⟩
      | succ i => exact Or.inr ⟨i :: q, ih.2 ⟨i, q, c, rfl, hc, hq⟩, rfl⟩

/-- the addresses listed are those at which something stands -/
theorem mem_places_iff : p ∈ t.places ↔ (t.part? p).isSome := by
  induction p generalizing t with
  | nil =>
    cases t with
    | leaf s => simp [places]
    | node s cs => simp [places]
  | cons i p ih =>
    cases t with
    | leaf s => simp [places]
    | node s cs =>
      rw [places, List.mem_cons, mem_allPlaces_iff, part?_node_cons]
      constructor
      · rintro (h | ⟨j, q, c, h, hc, hq⟩)
        · cases h
        · obtain ⟨rfl, rfl⟩ := List.cons.inj h
          rw [hc, Option.bind_some]
          exact ih.1 hq
      · intro h
        cases hc : cs[i]? with
        | none => simp [hc] at h
        | some c =>
          rw [hc, Option.bind_some] at h
          exact Or.inr ⟨i, p, c, rfl, hc, ih.2 h⟩

mutual

theorem length_parts : ∀ t : ParseTree, t.parts.length = t.places.length
  | leaf _ => rfl
  | node _ cs => by rw [parts, places, List.length_cons, List.length_cons, length_allParts cs]

theorem length_allParts : ∀ cs : List ParseTree, (allParts cs).length = (allPlaces cs).length
  | [] => rfl
  | c :: cs => by
    rw [allParts, allPlaces, List.length_append, List.length_append, List.length_map, List.length_map, length_parts c,
      length_allParts cs]

end

mutual

/-- the parts stand at the addresses, in this order -/
theorem part?_places : ∀ t : ParseTree, t.places.map t.part? = t.parts.map some
  | leaf _ => rfl
  | node s cs => by rw [places, parts, List.map_cons, List.map_cons, part?_nil, part?_allPlaces s cs]

theorem part?_allPlaces (s : Symbol) : ∀ cs : List ParseTree,
    (allPlaces cs).map (node s cs).part? = (allParts cs).map some
  | [] => rfl
  | c :: cs => by
    have hothers : ∀ p ∈ allPlaces cs, (node s (c :: cs)).part? (next p) = (node s cs).part? p := by
      intro p hp
      obtain ⟨i, q, d, rfl, -, -⟩ := mem_allPlaces_iff.1 hp
      rfl
    have hfirst : (c.places.map (0 :: ·)).map (node s (c :: cs)).part? = c.parts.map some := by
      rw [List.map_map, ← part?_places c]
      rfl
    rw [allPlaces, allParts, List.map_append, List.map_append, hfirst, List.map_map, ← part?_allPlaces s cs]
    exact congrArg _ (List.map_congr_left hothers)

end

theorem next_lt_next (h : p < q) (hp : p ≠ []) : next p < next q := by
  rcases p with _ | ⟨i, p⟩
  · exact absurd rfl hp
  · rcases q with _ | ⟨j, q⟩
    · cases h
    · simpa [next, List.cons_lt_cons_iff] using h

theorem ne_nil_of_mem_allPlaces (h : p ∈ allPlaces cs) : p ≠ [] := by
  obtain ⟨i, q, c, rfl, -, -⟩ := mem_allPlaces_iff.1 h
  exact List.cons_ne_nil i q

mutual

/-- preorder is the order of a dictionary -/
theorem pairwise_places : ∀ t : ParseTree, t.places.Pairwise (· < ·)
  | leaf _ => List.pairwise_singleton _ _
  | node _ cs => by
    rw [places, List.pairwise_cons]
    refine ⟨?_, pairwise_allPlaces cs⟩
    intro p hp
    obtain ⟨i, q, c, rfl, -, -⟩ := mem_allPlaces_iff.1 hp
    exact List.nil_lt_cons i q

theorem pairwise_allPlaces : ∀ cs : List ParseTree, (allPlaces cs).Pairwise (· < ·)
  | [] => List.Pairwise.nil
  | c :: cs => by
    rw [allPlaces, List.pairwise_append]
    refine ⟨?_, ?_, ?_⟩
    · rw [List.pairwise_map]
      exact (pairwise_places c).imp fun h => List.cons_lt_cons_iff.2 (Or.inr ⟨rfl, h⟩)
    · rw [List.pairwise_map]
      exact (pairwise_allPlaces cs).imp_of_mem fun hp _ h => next_lt_next h (ne_nil_of_mem_allPlaces hp)
    · intro p hp q hq
      obtain ⟨p, -, rfl⟩ := List.mem_map.1 hp
      obtain ⟨q, hq', rfl⟩ := List.mem_map.1 hq
      obtain ⟨i, q, d, rfl, -, -⟩ := mem_allPlaces_iff.1 hq'
      exact List.cons_lt_cons_iff.2 (Or.inl (Nat.succ_pos i))

end

/-! ## Counting -/

mutual

/-- how many nodes come before the one at an address -/
def rank : ParseTree → List Nat → Nat
  | leaf _, _ => 0
  | node _ _, [] => 0
  | node _ cs, i :: p => 1 + rankBelow cs i p

/-- how many nodes of the trees come before the one in the tree `i` at an address -/
def rankBelow : List ParseTree → Nat → List Nat → Nat
  | [], _, _ => 0
  | c :: _, 0, p => c.rank p
  | c :: cs, i + 1, p => c.places.length + rankBelow cs i p

end

/-- how many nodes of the trees come before the one at an address below their parent -/
def rankAt (cs : List ParseTree) : List Nat → Nat
  | [] => 0
  | i :: p => rankBelow cs i p

mutual

theorem map_rank_places : ∀ t : ParseTree, t.places.map t.rank = List.range t.places.length
  | leaf _ => rfl
  | node s cs => by
    have hbelow : ∀ p ∈ allPlaces cs, (node s cs).rank p = 1 + rankAt cs p := by
      intro p hp
      obtain ⟨i, q, c, rfl, -, -⟩ := mem_allPlaces_iff.1 hp
      rfl
    have hall := congrArg (List.map (1 + ·)) (map_rankAt_allPlaces cs)
    rw [List.map_map] at hall
    rw [places, List.map_cons, List.length_cons, Nat.add_comm, List.range_add, List.map_congr_left hbelow]
    exact congrArg _ hall

theorem map_rankAt_allPlaces : ∀ cs : List ParseTree,
    (allPlaces cs).map (rankAt cs) = List.range (allPlaces cs).length
  | [] => rfl
  | c :: cs => by
    have hothers : ∀ p ∈ allPlaces cs, rankAt (c :: cs) (next p) = c.places.length + rankAt cs p := by
      intro p hp
      obtain ⟨i, q, d, rfl, -, -⟩ := mem_allPlaces_iff.1 hp
      rfl
    have hfirst : (c.places.map (0 :: ·)).map (rankAt (c :: cs)) = List.range c.places.length := by
      rw [List.map_map, ← map_rank_places c]
      rfl
    have hall := congrArg (List.map (c.places.length + ·)) (map_rankAt_allPlaces cs)
    rw [List.map_map] at hall
    rw [allPlaces, List.map_append, List.length_append, List.length_map, List.length_map, List.range_add, hfirst,
      List.map_map]
    exact congrArg _ ((List.map_congr_left hothers).trans hall)

end

theorem rank_eq_number (h : p ∈ t.places) : t.rank p = t.number p := by
  have hlt : t.number p < t.places.length := List.idxOf_lt_length_of_mem h
  have hget : t.places[t.number p]? = some p := List.getElem?_idxOf h
  have hrank : (t.places.map t.rank)[t.number p]? = (List.range t.places.length)[t.number p]? := by rw [map_rank_places]
  rw [List.getElem?_map, hget, List.getElem?_range hlt] at hrank
  exact Option.some.inj hrank

theorem number_injOn (hp : p ∈ t.places) : t.number p = t.number q ↔ p = q := List.idxOf_inj hp

theorem number_nil (t : ParseTree) : t.number [] = 0 := by
  cases t with
  | leaf s => rfl
  | node s cs => rfl

/-- the nodes of a child are counted from some number on -/
theorem exists_rankBelow_eq (h : cs[i]? = some c) : ∃ m, ∀ p, rankBelow cs i p = m + c.rank p := by
  induction cs generalizing i with
  | nil => simp at h
  | cons d cs ih =>
    cases i with
    | zero =>
      obtain rfl : d = c := Option.some.inj h
      exact ⟨0, fun p => (Nat.zero_add _).symm⟩
    | succ i =>
      obtain ⟨m, hm⟩ := ih h
      exact ⟨d.places.length + m, fun p => by rw [rankBelow, hm, Nat.add_assoc]⟩

/-- a child comes after its parent -/
theorem rank_lt_rank_child (h : (t.part? (p ++ [i])).isSome) : t.rank p < t.rank (p ++ [i]) := by
  induction p generalizing t with
  | nil =>
    cases t with
    | leaf s => simp at h
    | node s cs =>
      rw [List.nil_append, rank, rank]
      omega
  | cons j p ih =>
    cases t with
    | leaf s => simp at h
    | node s cs =>
      rw [List.cons_append, part?_node_cons] at h
      obtain ⟨c, hc⟩ := Option.isSome_iff_exists.1 (Option.isSome_of_isSome_bind h)
      rw [hc, Option.bind_some] at h
      obtain ⟨m, hm⟩ := exists_rankBelow_eq hc
      have hlt := ih h
      rw [List.cons_append, rank, rank, hm, hm]
      omega

/-! ## Branches -/

theorem mem_allBranches (h : (p, i) ∈ allBranches cs) :
    p = [] ∨ ∃ j q c, p = j :: q ∧ cs[j]? = some c ∧ (q, i) ∈ c.branches := by
  induction cs generalizing p i with
  | nil => simp [allBranches] at h
  | cons d cs ih =>
    rw [allBranches, List.mem_append, List.mem_cons, List.mem_map, List.mem_map] at h
    rcases h with ⟨⟨q, k⟩, hb, h⟩ | h | ⟨⟨q, k⟩, hb, h⟩
    · obtain ⟨rfl, rfl⟩ := Prod.mk.inj h
      exact Or.inr ⟨0, q, d, rfl, rfl, hb⟩
    · exact Or.inl (Prod.mk.inj h).1
    · rcases ih hb with rfl | ⟨j, q, c, rfl, hc, hq⟩
      · exact Or.inl (Prod.mk.inj h).1.symm
      · obtain ⟨rfl, rfl⟩ := Prod.mk.inj h
        exact Or.inr ⟨j + 1, q, c, rfl, hc, hq⟩

/-- branches come from nodes -/
theorem exists_part_of_mem_branches (h : (p, i) ∈ t.branches) : ∃ u, t.part? p = some u := by
  induction p generalizing t with
  | nil => exact ⟨t, rfl⟩
  | cons j p ih =>
    cases t with
    | leaf s => simp [branches] at h
    | node s cs =>
      rcases mem_allBranches h with h | ⟨k, q, c, h, hc, hq⟩
      · cases h
      · obtain ⟨rfl, rfl⟩ := List.cons.inj h
        rw [part?_node_cons, hc]
        exact ih hq

theorem fst_nextBranch_eq_nil_iff (b : List Nat × Nat) : (nextBranch b).1 = [] ↔ b.1 = [] := by
  rcases b with ⟨_ | ⟨j, p⟩, i⟩
  · simp [nextBranch]
  · simp [nextBranch]

/-- the branches from a node to its children -/
theorem filter_allBranches_nil (cs : List ParseTree) :
    (allBranches cs).filter (fun b => b.1 = []) = (List.range cs.length).map fun i => ([], i) := by
  induction cs with
  | nil => rfl
  | cons c cs ih =>
    have hothers : ((allBranches cs).map nextBranch).filter (fun b => b.1 = []) =
        (List.range cs.length).map fun i => ([], i + 1) := by
      rw [List.filter_map]
      have hsame : ((fun b : List Nat × Nat => decide (b.1 = [])) ∘ nextBranch) = fun b => decide (b.1 = []) := by
        funext b
        simp [fst_nextBranch_eq_nil_iff]
      rw [hsame, ih, List.map_map]
      rfl
    have hfirst : (c.branches.map fun b => (0 :: b.1, b.2)).filter (fun b => b.1 = []) = [] := by
      simp [List.filter_map]
    rw [allBranches, List.filter_append, List.filter_cons, hfirst, hothers, List.length_cons,
      List.range_succ_eq_map, List.map_cons, List.map_map]
    rfl

theorem filter_map_nextBranch (bs : List (List Nat × Nat)) (j : Nat) (p : List Nat) :
    (bs.map nextBranch).filter (fun b => b.1 = (j + 1) :: p) = (bs.filter fun b => b.1 = j :: p).map nextBranch := by
  rw [List.filter_map]
  congr 2
  funext b
  rcases b with ⟨_ | ⟨k, q⟩, i⟩
  · simp [nextBranch]
  · simp [nextBranch]

theorem filter_map_nextBranch_zero (bs : List (List Nat × Nat)) (p : List Nat) :
    (bs.map nextBranch).filter (fun b => b.1 = 0 :: p) = [] := by
  rw [List.filter_eq_nil_iff]
  intro b hb
  obtain ⟨⟨q, i⟩, -, rfl⟩ := List.mem_map.1 hb
  cases q with
  | nil => simp [nextBranch]
  | cons k q => simp [nextBranch]

/-- the branches from a node below a child are branches of the child -/
theorem filter_allBranches_cons (h : cs[j]? = some c) (p : List Nat) :
    (allBranches cs).filter (fun b => b.1 = j :: p) =
      (c.branches.filter fun b => b.1 = p).map fun b => (j :: b.1, b.2) := by
  induction cs generalizing j with
  | nil => simp at h
  | cons d cs ih =>
    rw [allBranches, List.filter_append, List.filter_cons, if_neg (by simp), List.filter_map]
    cases j with
    | zero =>
      obtain rfl : d = c := Option.some.inj h
      rw [filter_map_nextBranch_zero, List.append_nil]
      congr 2
      funext b
      simp
    | succ j =>
      have hfirst : d.branches.filter ((fun b : List Nat × Nat => decide (b.1 = (j + 1) :: p)) ∘
          fun b => (0 :: b.1, b.2)) = [] := by
        simp
      rw [hfirst, List.map_nil, List.nil_append, filter_map_nextBranch, ih h, List.map_map]
      rfl

/-- **The branches from a node go to its children from left to right.** -/
theorem filter_branches (h : t.part? p = some u) :
    t.branches.filter (fun b => b.1 = p) = (List.range u.children.length).map fun i => (p, i) := by
  induction p generalizing t with
  | nil =>
    obtain rfl : t = u := Option.some.inj h
    cases t with
    | leaf s => rfl
    | node s cs => exact filter_allBranches_nil cs
  | cons j p ih =>
    cases t with
    | leaf s => simp at h
    | node s cs =>
      rw [part?_node_cons] at h
      obtain ⟨c, hc, hu⟩ := Option.bind_eq_some_iff.1 h
      rw [branches, filter_allBranches_cons hc, ih hu, List.map_map]
      rfl

/-- a branch goes from a node to one of its children -/
theorem mem_branches_iff : (p, i) ∈ t.branches ↔ ∃ u, t.part? p = some u ∧ i < u.children.length := by
  have hmem : ∀ u, t.part? p = some u → ((p, i) ∈ t.branches ↔ i < u.children.length) := by
    intro u hu
    have := congrArg ((p, i) ∈ ·) (filter_branches hu)
    simpa using this
  constructor
  · intro h
    obtain ⟨u, hu⟩ := exists_part_of_mem_branches h
    exact ⟨u, hu, (hmem u hu).1 h⟩
  · rintro ⟨u, hu, hi⟩
    exact (hmem u hu).2 hi

mutual

theorem length_branches : ∀ t : ParseTree, t.branches.length + 1 = t.places.length
  | leaf _ => rfl
  | node _ cs => by rw [branches, places, List.length_cons, length_allBranches cs]

theorem length_allBranches : ∀ cs : List ParseTree, (allBranches cs).length = (allPlaces cs).length
  | [] => rfl
  | c :: cs => by
    have hfirst := length_branches c
    rw [allBranches, allPlaces, List.length_append, List.length_append, List.length_cons, List.length_map,
      List.length_map, List.length_map, List.length_map, length_allBranches cs]
    omega

end

end GrammarLab.ParseTree
