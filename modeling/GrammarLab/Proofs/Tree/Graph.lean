/-
The graph of a tree.

Main statement:
- `lines_exact`: the lines of the graph are an edge for every node but the root and then the nodes in preorder; the edges
  join each node to its children from left to right, so every node but the root is the target of one edge, from a smaller
  number; and the tree can be told from the lines.
The edges are found by addresses (`edges_graph`), and the numbers tell addresses apart. For the last part, the line of a
node shows of what kind it is and its symbol (`nodeLine_inj`), the edges show how many children it has, and a tree is
determined by these in preorder (`parts_inj`).
-/
import GrammarLab.Proofs.Tree.Addresses
import GrammarLab.Proofs.Tree.Quoting
import Mathlib.Data.List.Nodup

namespace GrammarLab.Dot

open ParseTree

/-! ## Nodes and edges -/

mutual

theorem nodes_graph (id : Nat) : ∀ t : ParseTree, (graph id t).nodes = t.parts
  | .leaf _ => rfl
  | .node s cs => congrArg (ParseTree.node s cs :: ·) (nodes_graphs id (id + 1) cs)

theorem nodes_graphs (parent id : Nat) : ∀ cs : List ParseTree, (graphs parent id cs).nodes = allParts cs
  | [] => rfl
  | c :: cs => by
    rw [graphs, allParts, nodes_graph id c, nodes_graphs parent _ cs]

end

/-- the number of the node at an address below a parent, where the trees below it are numbered from `id` on -/
def numberFrom (parent id : Nat) (cs : List ParseTree) : List Nat → Nat
  | [] => parent
  | i :: p => id + rankBelow cs i p

theorem numberFrom_cons (parent id : Nat) (c : ParseTree) (cs : List ParseTree) (b : List Nat × Nat) :
    numberFrom parent id (c :: cs) (nextBranch b).1 = numberFrom parent (id + c.parts.length) cs b.1 ∧
      numberFrom parent id (c :: cs) ((nextBranch b).1 ++ [(nextBranch b).2]) =
        numberFrom parent (id + c.parts.length) cs (b.1 ++ [b.2]) := by
  rw [length_parts]
  rcases b with ⟨_ | ⟨j, p⟩, i⟩
  · exact ⟨rfl, (Nat.add_assoc _ _ _).symm⟩
  · exact ⟨(Nat.add_assoc _ _ _).symm, (Nat.add_assoc _ _ _).symm⟩

mutual

theorem edges_graph (id : Nat) : ∀ t : ParseTree,
    (graph id t).edges = t.branches.map fun b => (id + t.rank b.1, id + t.rank (b.1 ++ [b.2]))
  | .leaf _ => rfl
  | .node s cs => by
    rw [graph, branches, edges_graphs id (id + 1) cs]
    refine List.map_congr_left fun b _ => ?_
    rcases b with ⟨_ | ⟨j, p⟩, i⟩
    · exact Prod.ext rfl (Nat.add_assoc _ _ _)
    · exact Prod.ext (Nat.add_assoc _ _ _) (Nat.add_assoc _ _ _)

theorem edges_graphs (parent id : Nat) : ∀ cs : List ParseTree,
    (graphs parent id cs).edges =
      (allBranches cs).map fun b => (numberFrom parent id cs b.1, numberFrom parent id cs (b.1 ++ [b.2]))
  | [] => rfl
  | c :: cs => by
    have hroot : rankBelow (c :: cs) 0 [] = 0 := by
      cases c with
      | leaf s => rfl
      | node s ds => rfl
    rw [graphs, allBranches, List.map_append, List.map_cons, List.map_map, List.map_map, edges_graph id c,
      nodes_graph, edges_graphs parent _ cs]
    have hedge : (parent, id) = (numberFrom parent id (c :: cs) [], numberFrom parent id (c :: cs) ([] ++ [0])) :=
      Prod.ext rfl (congrArg (id + ·) hroot).symm
    have hothers : ∀ b ∈ allBranches cs, (numberFrom parent (id + c.parts.length) cs b.1,
        numberFrom parent (id + c.parts.length) cs (b.1 ++ [b.2])) = (numberFrom parent id (c :: cs) (nextBranch b).1,
          numberFrom parent id (c :: cs) ((nextBranch b).1 ++ [(nextBranch b).2])) := by
      intro b _
      obtain ⟨hparent, hchild⟩ := numberFrom_cons parent id c cs b
      rw [hparent, hchild]
    rw [hedge, List.map_congr_left hothers]
    rfl

end

/-- the edges of the graph of a tree, by numbers in preorder -/
def edges (t : ParseTree) : List (Nat × Nat) := t.branches.map fun b => (t.number b.1, t.number (b.1 ++ [b.2]))

variable {t u : ParseTree} {p : List Nat} {i k : Nat}

theorem part?_child (h : (p, i) ∈ t.branches) : (t.part? (p ++ [i])).isSome := by
  obtain ⟨u, hu, hi⟩ := mem_branches_iff.1 h
  rw [part?_append, hu, Option.bind_some, part?, List.getElem?_eq_getElem hi]
  rfl

theorem mem_places_parent (h : (p, i) ∈ t.branches) : p ∈ t.places := by
  obtain ⟨u, hu, -⟩ := mem_branches_iff.1 h
  rw [mem_places_iff, hu]
  rfl

theorem edges_graph_zero (t : ParseTree) : (graph 0 t).edges = edges t := by
  rw [edges_graph, edges]
  refine List.map_congr_left fun b hb => ?_
  rw [Nat.zero_add, Nat.zero_add, rank_eq_number (mem_places_parent hb),
    rank_eq_number (mem_places_iff.2 (part?_child hb))]

theorem nodeLines_eq_mapIdx (id : Nat) (ts : List ParseTree) :
    nodeLines id ts = ts.mapIdx fun k t => nodeLine (id + k) t := by
  induction ts generalizing id with
  | nil => rfl
  | cons t ts ih =>
    rw [nodeLines, ih, List.mapIdx_cons]
    simp only [Nat.add_zero, Nat.add_assoc, Nat.add_comm 1]

theorem lines_eq (t : ParseTree) :
    lines t = opening :: (edges t).map (fun e => edgeLine e.1 e.2) ++ t.parts.mapIdx nodeLine ++ [closing] := by
  rw [lines, edges_graph_zero, nodes_graph, nodeLines_eq_mapIdx]
  simp only [Nat.zero_add]

/-! ## The edges at a node -/

theorem length_edges (t : ParseTree) : (edges t).length + 1 = t.parts.length := by
  rw [edges, List.length_map, length_branches, length_parts]

/-- from a node there is an edge to each of its children, from left to right -/
theorem filter_edges_source (h : t.part? p = some u) :
    (edges t).filter (fun e => e.1 = t.number p) =
      (List.range u.children.length).map fun i => (t.number p, t.number (p ++ [i])) := by
  have hsame : ∀ b ∈ t.branches, decide (t.number b.1 = t.number p) = decide (b.1 = p) := by
    intro b hb
    exact decide_eq_decide.2 (number_injOn (mem_places_parent hb))
  rw [edges, List.filter_map, List.filter_congr (q := fun b => b.1 = p) hsame, filter_branches h, List.map_map]
  rfl

/-- to a child there is one edge -/
theorem filter_edges_target (h : (p, i) ∈ t.branches) :
    (edges t).filter (fun e => e.2 = t.number (p ++ [i])) = [(t.number p, t.number (p ++ [i]))] := by
  obtain ⟨u, hu, hi⟩ := mem_branches_iff.1 h
  have hsame : ∀ b ∈ t.branches,
      decide (t.number (b.1 ++ [b.2]) = t.number (p ++ [i])) = (decide (b.2 = i) && decide (b.1 = p)) := by
    intro b hb
    rw [← Bool.decide_and, decide_eq_decide, number_injOn (mem_places_iff.2 (part?_child hb))]
    constructor
    · intro heq
      obtain ⟨hp, hi⟩ := List.append_inj' heq rfl
      exact ⟨List.singleton_inj.1 hi, hp⟩
    · rintro ⟨rfl, rfl⟩
      rfl
  have hone : (List.range u.children.length).filter (fun k => k = i) = [i] := by
    rw [List.filter_eq, List.count_eq_one_of_mem List.nodup_range (List.mem_range.2 hi)]
    rfl
  have hbranch : t.branches.filter (fun b => decide (b.2 = i) && decide (b.1 = p)) = [(p, i)] := by
    calc t.branches.filter (fun b => decide (b.2 = i) && decide (b.1 = p))
        = ((List.range u.children.length).map fun k => (p, k)).filter (fun b => b.2 = i) := by
          rw [← List.filter_filter, filter_branches hu]
      _ = ((List.range u.children.length).filter fun k => k = i).map fun k => (p, k) := List.filter_map
      _ = [(p, i)] := by rw [hone, List.map_singleton]
  calc (edges t).filter (fun e => e.2 = t.number (p ++ [i]))
      = (t.branches.filter fun b => t.number (b.1 ++ [b.2]) = t.number (p ++ [i])).map
          fun b => (t.number b.1, t.number (b.1 ++ [b.2])) := List.filter_map
    _ = [(t.number p, t.number (p ++ [i]))] := by rw [List.filter_congr hsame, hbranch, List.map_singleton]

theorem number_lt_number_child (h : (p, i) ∈ t.branches) : t.number p < t.number (p ++ [i]) := by
  have hlt := rank_lt_rank_child (part?_child h)
  rwa [rank_eq_number (mem_places_parent h), rank_eq_number (mem_places_iff.2 (part?_child h))] at hlt

/-- every number but zero is the number of a child -/
theorem exists_branch (hk : k < t.parts.length) (hne : k ≠ 0) : ∃ p i, (p, i) ∈ t.branches ∧ t.number (p ++ [i]) = k := by
  rw [length_parts] at hk
  have hnumber : t.number t.places[k] = k := (pairwise_places t).nodup.idxOf_getElem k hk
  have hmem : (t.part? t.places[k]).isSome := mem_places_iff.1 (List.getElem_mem hk)
  rcases List.eq_nil_or_concat' t.places[k] with hnil | ⟨p, i, hchild⟩
  · rw [hnil, number_nil] at hnumber
    exact absurd hnumber.symm hne
  · rw [hchild] at hnumber hmem
    refine ⟨p, i, ?_, hnumber⟩
    rw [part?_append] at hmem
    obtain ⟨u, hu⟩ := Option.isSome_iff_exists.1 (Option.isSome_of_isSome_bind hmem)
    refine mem_branches_iff.2 ⟨u, hu, ?_⟩
    by_contra hout
    rw [hu, Option.bind_some, part?, List.getElem?_eq_none (by omega)] at hmem
    cases hmem

/-! ## The tree told from the lines -/

/-- what a node is drawn as -/
inductive Kind where
  | leaf
  | childless
  | inner
deriving DecidableEq

def kind : ParseTree → Kind
  | .leaf _ => .leaf
  | .node _ [] => .childless
  | .node _ (_ :: _) => .inner

theorem kind_node_ne (s : Symbol) (cs : List ParseTree) : kind (.node s cs) ≠ .leaf := by
  cases cs with
  | nil => simp [kind]
  | cons c cs => simp [kind]

/-- how the kinds look -/
def Kind.look : Kind → String
  | .leaf => "shape=doublecircle, style=filled, fillcolor=white, fontcolor=black"
  | .childless => "shape=record, style=filled, fillcolor=gray, fontcolor=white"
  | .inner => "shape=record, style=filled, fillcolor=black, fontcolor=white"

/-- what is written on them -/
def Kind.label : Kind → Symbol → String
  | .leaf, s => escape s
  | .childless, s => escape s ++ " → ε"
  | .inner, s => escape s

theorem nodeLine_eq (id : Nat) (t : ParseTree) :
    nodeLine id t =
      "   " ++ toString id ++ " [" ++ ((kind t).look ++ (", label=\"" ++ ((kind t).label t.symbol ++ "\"];"))) := by
  have hkind : nodeLine id t =
      "   " ++ toString id ++ " [" ++ (kind t).look ++ ", label=\"" ++ (kind t).label t.symbol ++ "\"];" := by
    rcases t with s | ⟨s, _ | ⟨c, cs⟩⟩
    · rfl
    · rfl
    · rfl
  rw [hkind, String.append_assoc, String.append_assoc, String.append_assoc]

theorem label_inj {k : Kind} {s s' : Symbol} (h : k.label s = k.label s') : s = s' := by
  cases k with
  | leaf => exact escape_injective h
  | childless => exact escape_injective ((String.append_left_inj _).1 h)
  | inner => exact escape_injective h

/-- the looks differ soon enough -/
theorem look_inj {k l : Kind} {x y : String} (h : k.look ++ x = l.look ++ y) : k = l ∧ x = y := by
  have hlong : ∀ k : Kind, 45 ≤ k.look.toList.length := by
    intro k
    cases k <;> decide
  have hstart : k.look.toList.take 45 = l.look.toList.take 45 := by
    have htake := congrArg (fun s => s.toList.take 45) h
    simp only [String.toList_append] at htake
    rwa [List.take_append_of_le_length (hlong k), List.take_append_of_le_length (hlong l)] at htake
  have hkind : k = l := by
    revert hstart
    cases k <;> cases l <;> decide
  subst hkind
  exact ⟨rfl, (String.append_right_inj _).1 h⟩

/-- a node can be told from its line as far as it is shown -/
theorem nodeLine_inj {id : Nat} {t u : ParseTree} (h : nodeLine id t = nodeLine id u) :
    kind t = kind u ∧ t.symbol = u.symbol := by
  rw [nodeLine_eq, nodeLine_eq, String.append_right_inj] at h
  obtain ⟨hkind, hlabel⟩ := look_inj h
  rw [hkind, String.append_right_inj, String.append_left_inj] at hlabel
  exact ⟨hkind, label_inj hlabel⟩

/-- a number ends where something else than a digit follows -/
theorem number_append_inj {m n : Nat} {x y : String} (hx : x.toList.takeWhile Char.isDigit = [])
    (hy : y.toList.takeWhile Char.isDigit = []) (h : toString m ++ x = toString n ++ y) : m = n ∧ x = y := by
  have hdigits : ∀ (n : Nat) (x : String), x.toList.takeWhile Char.isDigit = [] →
      (toString n ++ x).toList.takeWhile Char.isDigit = Nat.toDigits 10 n := by
    intro n x hx
    have hall : ∀ c ∈ Nat.toDigits 10 n, c.isDigit = true :=
      fun c hc => Nat.isDigit_of_mem_toDigits (by decide) (by decide) hc
    rw [Nat.toString_eq_ofList_toDigits, String.toList_append, String.toList_ofList, List.takeWhile_append_of_pos hall, hx,
      List.append_nil]
  have hnumber : m = n := by
    rw [← Nat.ofDigitChars_ten_toDigits (n := m), ← Nat.ofDigitChars_ten_toDigits (n := n), ← hdigits m x hx,
      ← hdigits n y hy, h]
  subst hnumber
  exact ⟨rfl, (String.append_right_inj _).1 h⟩

theorem edgeLine_inj {e f : Nat × Nat} (h : edgeLine e.1 e.2 = edgeLine f.1 f.2) : e = f := by
  have hparts : ∀ m n : Nat, edgeLine m n =
      "    " ++ (toString m ++ (":from_false -> " ++ (toString n ++ ":from_node [arrowhead=vee] "))) := by
    intro m n
    rw [edgeLine, String.append_assoc, String.append_assoc, String.append_assoc]
  rw [hparts, hparts, String.append_right_inj] at h
  obtain ⟨hparent, hrest⟩ := number_append_inj (by rw [String.toList_append]; rfl) (by rw [String.toList_append]; rfl) h
  rw [String.append_right_inj] at hrest
  exact Prod.ext hparent (number_append_inj rfl rfl hrest).1

/-! ## Trees by their parts -/

/-- what the lines show of a node: its kind, its symbol and the number of its children -/
def shown (t : ParseTree) : Kind × Symbol × Nat := (kind t, t.symbol, t.children.length)

mutual

/-- a tree can be told from what is shown of its parts, whatever comes after -/
theorem parts_inj : ∀ (t u : ParseTree) {r r' : List (Kind × Symbol × Nat)},
    t.parts.map shown ++ r = u.parts.map shown ++ r' → t = u ∧ r = r'
  | .leaf s, u, r, r', h => by
    cases u with
    | leaf s' =>
      simp only [parts, List.map_cons, List.map_nil, List.cons_append, List.nil_append, List.cons.injEq] at h
      obtain ⟨hroot, hrest⟩ := h
      simp only [shown, kind, symbol, children, Prod.mk.injEq] at hroot
      exact ⟨congrArg _ hroot.2.1, hrest⟩
    | node s' ds =>
      simp only [parts, List.map_cons, List.cons_append, List.cons.injEq] at h
      exact absurd (congrArg Prod.fst h.1).symm (kind_node_ne s' ds)
  | .node s cs, u, r, r', h => by
    cases u with
    | leaf s' =>
      simp only [parts, List.map_cons, List.cons_append, List.cons.injEq] at h
      exact absurd (congrArg Prod.fst h.1) (kind_node_ne s cs)
    | node s' ds =>
      simp only [parts, List.map_cons, List.cons_append, List.cons.injEq] at h
      obtain ⟨hroot, hrest⟩ := h
      simp only [shown, symbol, children, Prod.mk.injEq] at hroot
      obtain ⟨hbelow, hrest⟩ := allParts_inj cs ds hroot.2.2 hrest
      exact ⟨congrArg₂ _ hroot.2.1 hbelow, hrest⟩

theorem allParts_inj : ∀ (ts us : List ParseTree) {r r' : List (Kind × Symbol × Nat)}, ts.length = us.length →
    (allParts ts).map shown ++ r = (allParts us).map shown ++ r' → ts = us ∧ r = r'
  | [], [], _, _, _, h => ⟨rfl, h⟩
  | t :: ts, u :: us, r, r', hlen, h => by
    simp only [allParts, List.map_append, List.append_assoc] at h
    obtain ⟨rfl, hothers⟩ := parts_inj t u h
    obtain ⟨rfl, hrest⟩ := allParts_inj ts us (Nat.succ.inj hlen) hothers
    exact ⟨rfl, hrest⟩

end

/-- the edges show how many children each part has -/
theorem length_children_eq (h : t.parts[k]? = some u) :
    u.children.length = ((edges t).filter fun e => e.1 = k).length := by
  have hlt : k < t.places.length := by
    rw [← length_parts]
    exact (List.getElem?_eq_some_iff.1 h).1
  have hpart : t.part? t.places[k] = some u := by
    have hget := congrArg (fun l => l[k]?) (part?_places t)
    simpa [h, hlt] using hget
  have hnumber : t.number t.places[k] = k := (pairwise_places t).nodup.idxOf_getElem k hlt
  have hfilter := filter_edges_source hpart
  rw [hnumber] at hfilter
  rw [hfilter, List.length_map, List.length_range]

/-- different trees have different lines -/
theorem lines_injective : Function.Injective lines := by
  intro t u h
  rw [lines_eq, lines_eq, List.append_cancel_right_eq] at h
  have hlen : (edges t).length = (edges u).length := by
    have hcount := congrArg List.length h
    have ht := length_edges t
    have hu := length_edges u
    simp only [List.length_append, List.length_cons, List.length_map, List.length_mapIdx] at hcount
    omega
  obtain ⟨hedges, hnodes⟩ := List.append_inj h (by simp [hlen])
  have hedges : edges t = edges u := List.map_injective_iff.2 (fun _ _ => edgeLine_inj) (List.cons.inj hedges).2
  have hshown : t.parts.map shown = u.parts.map shown := by
    refine List.ext_getElem? fun k => ?_
    have hline := congrArg (fun l => l[k]?) hnodes
    simp only [List.getElem?_mapIdx] at hline
    rw [List.getElem?_map, List.getElem?_map]
    cases ht : t.parts[k]? with
    | none =>
      cases hu : u.parts[k]? with
      | none => rfl
      | some b => simp [ht, hu] at hline
    | some a =>
      cases hu : u.parts[k]? with
      | none => simp [ht, hu] at hline
      | some b =>
        rw [ht, hu] at hline
        obtain ⟨hkind, hsymbol⟩ := nodeLine_inj (Option.some.inj hline)
        have hchildren : a.children.length = b.children.length := by
          rw [length_children_eq ht, length_children_eq hu, hedges]
        simp only [Option.map_some, shown, hkind, hsymbol, hchildren]
  have hall : t.parts.map shown ++ [] = u.parts.map shown ++ [] := by rw [hshown]
  exact (parts_inj t u hall).1

/-- **The graph is the tree.** The nodes of a tree are told by their addresses and numbered in preorder, the order of a
dictionary. Between its first and its last line the graph has an edge for every node but one, and then the nodes by number.
From a node there are edges to its children, from left to right, and there are no other edges; so every node but the root
is the target of one edge, which comes from a smaller number. Different trees have different lines. -/
theorem lines_exact (t : ParseTree) :
    (∀ p, p ∈ t.places ↔ (t.part? p).isSome) ∧ t.places.Pairwise (· < ·) ∧ t.places.map t.part? = t.parts.map some ∧
      ∃ edges : List (Nat × Nat),
        lines t = opening :: edges.map (fun e => edgeLine e.1 e.2) ++ t.parts.mapIdx nodeLine ++ [closing] ∧
          edges.length + 1 = t.parts.length ∧
          (∀ p u, t.part? p = some u → edges.filter (fun e => e.1 = t.number p) =
            (List.range u.children.length).map fun i => (t.number p, t.number (p ++ [i]))) ∧
          (∀ e ∈ edges, ∃ p i u, t.part? p = some u ∧ i < u.children.length ∧ e = (t.number p, t.number (p ++ [i]))) ∧
          (∀ e ∈ edges, e.1 < e.2) ∧
          (∀ k < t.parts.length, k ≠ 0 → ∃ j < k, edges.filter (fun e => e.2 = k) = [(j, k)]) ∧
          ∀ u, lines u = lines t → u = t := by
  refine ⟨fun p => mem_places_iff, pairwise_places t, part?_places t, edges t, lines_eq t, length_edges t,
    fun p u hu => filter_edges_source hu, ?_, ?_, ?_, fun u h => lines_injective h⟩
  · intro e he
    obtain ⟨⟨p, i⟩, hb, rfl⟩ := List.mem_map.1 he
    obtain ⟨u, hu, hi⟩ := mem_branches_iff.1 hb
    exact ⟨p, i, u, hu, hi, rfl⟩
  · intro e he
    obtain ⟨⟨p, i⟩, hb, rfl⟩ := List.mem_map.1 he
    exact number_lt_number_child hb
  · intro k hk hne
    obtain ⟨p, i, hb, rfl⟩ := exists_branch hk hne
    exact ⟨t.number p, number_lt_number_child hb, filter_edges_target hb⟩

/-- equal subtrees are nodes of their own, and an edge is written when the subtree at its end has been -/
example : edges (.node "S" [.node "A" [.leaf "a"], .node "A" [.leaf "a"]]) = [(1, 2), (0, 1), (3, 4), (0, 3)] := by
  decide

end GrammarLab.Dot
