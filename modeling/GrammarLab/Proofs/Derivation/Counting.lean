/-
How often each tree stands in an enumeration.

After `n` rounds that succeeded, a tree stands among the trees of a nonterminal as often as the alternatives at its nodes
are listed, the counts multiplied over all nodes (`Grammar.multiplicity`), if it is a derivation tree of that nonterminal
at most `n + 1` levels high, and not at all otherwise: `Enumerator.count_derivations`.
- `Grammar.mem_treesAfter_iff`: which trees there are, by induction on the rounds;
- `Grammar.count_treesAfter`: how often, by the same induction, with the counts of a product of lists (`count_selections`).
-/
import GrammarLab.Proofs.Derivation.Round
import Mathlib.Algebra.BigOperators.Group.List.Basic
import Mathlib.Algebra.Group.Action.Defs
import Mathlib.Data.List.Count

namespace GrammarLab

/-! ## Products of lists -/

theorem mem_selections {ls : List (List ParseTree)} {cs : List ParseTree} :
    cs ∈ selections ls ↔ List.Forall₂ (fun c l => c ∈ l) cs ls := by
  induction ls generalizing cs with
  | nil => simp [selections]
  | cons l ls ih =>
    cases cs with
    | nil => simp [selections]
    | cons c cs => simp [selections, List.mem_flatMap, ih, and_comm]

/-- selections from lists that hold the trees of a symbol with a property: the trees of those symbols with it -/
theorem mem_selections_map {choices : Symbol → List ParseTree} {P : ParseTree → Prop}
    (hchoices : ∀ s t, t ∈ choices s ↔ t.symbol = s ∧ P t) (rhs : List Symbol) (cs : List ParseTree) :
    cs ∈ selections (rhs.map choices) ↔ cs.map ParseTree.symbol = rhs ∧ ∀ c ∈ cs, P c := by
  rw [mem_selections, List.forall₂_map_right_iff]
  induction cs generalizing rhs with
  | nil =>
    rw [List.forall₂_nil_left_iff, List.map_nil]
    exact ⟨fun h => ⟨h.symm, by simp⟩, fun h => h.1.symm⟩
  | cons c cs ih =>
    cases rhs with
    | nil => simp
    | cons s rhs =>
      rw [List.forall₂_cons, ih, hchoices, List.map_cons, List.cons.injEq, List.forall_mem_cons]
      tauto

/-- a selection occurs as often as its trees occur in their lists, multiplied -/
theorem count_selections (choices : Symbol → List ParseTree) (cs : List ParseTree) :
    (selections ((cs.map ParseTree.symbol).map choices)).count cs =
      (cs.map fun c => (choices c.symbol).count c).prod := by
  induction cs with
  | nil => rfl
  | cons c cs ih =>
    set rest := selections ((cs.map ParseTree.symbol).map choices)
    have hother : ∀ t, t ≠ c → t ∈ choices c.symbol → (rest.map (t :: ·)).count (c :: cs) = 0 := by
      intro t ht _
      refine List.count_eq_zero.2 fun hmem => ?_
      obtain ⟨ds, -, hds⟩ := List.mem_map.1 hmem
      exact ht (List.cons.inj hds).1
    have hsame : (rest.map (c :: ·)).count (c :: cs) = rest.count cs :=
      List.count_map_of_injective _ _ List.cons_injective _
    calc (selections ((List.map ParseTree.symbol (c :: cs)).map choices)).count (c :: cs)
        = ((choices c.symbol).map fun t => (rest.map (t :: ·)).count (c :: cs)).sum := List.count_flatMap
      _ = (choices c.symbol).count c • (rest.map (c :: ·)).count (c :: cs) := List.sum_map_eq_nsmul_single c _ hother
      _ = ((c :: cs).map fun c => (choices c.symbol).count c).prod := by
          rw [hsame, ih, smul_eq_mul, List.map_cons, List.prod_cons]

namespace Grammar

variable {g : Grammar}

/-! ## Which trees there are -/

/-- what may stand for a symbol after `n` rounds: its valid trees that are at most `n + 1` levels high -/
theorem mem_choicesFrom {trees : Symbol → List ParseTree} {n : Nat}
    (htrees : ∀ s t, t ∈ trees s ↔ g.Derivation s t ∧ t.height ≤ n + 1) (s : Symbol) (t : ParseTree) :
    t ∈ g.choicesFrom trees s ↔ t.symbol = s ∧ g.Valid t ∧ t.height ≤ n + 1 := by
  unfold choicesFrom
  split_ifs with hs
  · rw [List.mem_singleton]
    constructor
    · rintro rfl
      exact ⟨rfl, .leaf hs, by simp [ParseTree.height]⟩
    · rintro ⟨rfl, hv, -⟩
      cases t with
      | leaf a => rfl
      | node a cs => exact absurd hv.mem_names ((isTerminal_iff g a).1 hs)
  · rw [htrees]
    constructor
    · rintro ⟨hd, hh⟩
      exact ⟨hd.symbol_eq, hd.valid, hh⟩
    · rintro ⟨rfl, hv, hh⟩
      exact ⟨hv.derivation (by simpa [isTerminal_iff] using hs), hh⟩

/-- after `n` rounds there are the derivation trees that are at most `n + 1` levels high -/
theorem mem_treesAfter_iff (g : Grammar) (n : Nat) :
    ∀ s t, t ∈ g.treesAfter n s ↔ g.Derivation s t ∧ t.height ≤ n + 1 := by
  induction n with
  | zero =>
    intro s t
    refine ⟨fun h => absurd h List.not_mem_nil, fun ⟨hd, hh⟩ => ?_⟩
    cases t with
    | leaf a => exact absurd hd not_derivation_leaf
    | node a cs =>
      have := ParseTree.two_le_height_node a cs
      omega
  | succ n ih =>
    intro s t
    simp only [treesAfter, treesOver, List.mem_flatMap, List.mem_map, mem_selections_map (mem_choicesFrom ih)]
    constructor
    · rintro ⟨rhs, hrhs, cs, ⟨rfl, hcs⟩, rfl⟩
      exact ⟨derivation_node_iff.2 ⟨rfl, .node hrhs fun c hc => (hcs c hc).1⟩,
        (ParseTree.height_node_le_iff s cs n).2 fun c hc => (hcs c hc).2⟩
    · rintro ⟨hd, hh⟩
      cases t with
      | leaf a => exact absurd hd not_derivation_leaf
      | node a cs =>
        obtain ⟨rfl, hv⟩ := derivation_node_iff.1 hd
        exact ⟨_, hv.rule_mem, cs, ⟨rfl, fun c hc => ⟨hv.of_mem hc, (ParseTree.height_node_le_iff a cs n).1 hh c hc⟩⟩, rfl⟩

/-! ## How often each stands there -/

mutual

/-- how often the alternative at each node is listed, multiplied over all nodes of the tree -/
def multiplicity (g : Grammar) : ParseTree → Nat
  | .leaf _ => 1
  | .node s cs => (g.alternatives s).count (cs.map ParseTree.symbol) * allMultiplicities g cs

/-- the product of the multiplicities of the trees -/
def allMultiplicities (g : Grammar) : List ParseTree → Nat
  | [] => 1
  | c :: cs => g.multiplicity c * allMultiplicities g cs

end

theorem allMultiplicities_eq_prod (cs : List ParseTree) : g.allMultiplicities cs = (cs.map g.multiplicity).prod := by
  induction cs with
  | nil => rfl
  | cons c cs ih => rw [allMultiplicities, ih, List.map_cons, List.prod_cons]

/-- a derivation tree that is not too high stands among the trees of its symbol as often as its multiplicity says -/
theorem count_treesAfter (g : Grammar) (n : Nat) :
    ∀ s t, g.Derivation s t → t.height ≤ n + 1 → (g.treesAfter n s).count t = g.multiplicity t := by
  induction n with
  | zero =>
    intro s t hd hh
    exact absurd ((mem_treesAfter_iff g 0 s t).2 ⟨hd, hh⟩) List.not_mem_nil
  | succ n ih =>
    intro s t hd hh
    cases t with
    | leaf a => exact absurd hd not_derivation_leaf
    | node a cs =>
      obtain ⟨rfl, hv⟩ := derivation_node_iff.1 hd
      set choices := g.choicesFrom (g.treesAfter n)
      have hbelow : ∀ c ∈ cs, (choices c.symbol).count c = g.multiplicity c := by
        intro c hc
        have hheight := (ParseTree.height_node_le_iff a cs n).1 hh c hc
        have hvalid := hv.of_mem hc
        cases c with
        | leaf b =>
          have hterm : g.isTerminal b = true := (isTerminal_iff g b).2 (valid_leaf_iff.1 hvalid)
          simp [choices, choicesFrom, ParseTree.symbol, hterm, multiplicity]
        | node b ds =>
          have hterm : ¬ g.isTerminal b = true := fun h => (isTerminal_iff g b).1 h hvalid.mem_names
          simp only [choices, choicesFrom, ParseTree.symbol, if_neg hterm]
          exact ih b _ (derivation_node_iff.2 ⟨rfl, hvalid⟩) hheight
      -- only the alternative that the children spell has the tree over it
      have hother : ∀ rhs : List Symbol, rhs ≠ cs.map ParseTree.symbol → rhs ∈ g.alternatives a →
          ((selections (rhs.map choices)).map (ParseTree.node a)).count (.node a cs) = 0 := by
        intro rhs hne _
        refine List.count_eq_zero.2 fun hmem => ?_
        obtain ⟨ds, hds, heq⟩ := List.mem_map.1 hmem
        obtain rfl : ds = cs := (ParseTree.node.inj heq).2
        exact hne ((mem_selections_map (mem_choicesFrom (mem_treesAfter_iff g n)) rhs ds).1 hds).1.symm
      have hinj : (ParseTree.node a).Injective := fun _ _ h => (ParseTree.node.inj h).2
      calc (g.treesAfter (n + 1) a).count (.node a cs)
          = ((g.alternatives a).map fun rhs =>
              ((selections (rhs.map choices)).map (ParseTree.node a)).count (.node a cs)).sum := List.count_flatMap
        _ = (g.alternatives a).count (cs.map ParseTree.symbol) •
              ((selections ((cs.map ParseTree.symbol).map choices)).map (ParseTree.node a)).count (.node a cs) :=
            by convert List.sum_map_eq_nsmul_single _ _ hother
        _ = g.multiplicity (.node a cs) := by
            rw [List.count_map_of_injective _ _ hinj, count_selections, List.map_congr_left hbelow, smul_eq_mul,
              multiplicity, allMultiplicities_eq_prod]

/-- where no alternative is listed twice, every derivation tree has multiplicity one -/
theorem multiplicity_eq_one (hnodup : ∀ s, (g.alternatives s).Nodup) {t : ParseTree} (ht : g.Valid t) :
    g.multiplicity t = 1 := by
  induction ht with
  | leaf _ => rfl
  | @node s cs rule _ ih =>
    rw [multiplicity, allMultiplicities_eq_prod, List.count_eq_one_of_mem (hnodup s) rule,
      List.map_congr_left ih, List.map_const', List.prod_replicate, one_pow, Nat.one_mul]

end Grammar

namespace Enumerator

/-- **The enumerator is exact, with multiplicities.** After `n` successful rounds, with any limit, a tree stands among the
trees of a nonterminal as often as its multiplicity says if it is a derivation tree of it at most `n + 1` levels high, and
not at all otherwise. So the trees are the derivation trees of depth at most `n`, each once if no rule lists an
alternative twice. -/
theorem count_derivations {g : Grammar} (hb : g.Built) {limit : Int} {n : Nat} {e : Enumerator}
    (h : Reached g limit n e) {s : Symbol} (hs : s ∈ g.names) :
    ∃ trees, e.derivations s = .ok trees ∧
      (∀ t, ¬ (g.Derivation s t ∧ t.height ≤ n + 1) → trees.count t = 0) ∧
      (∀ t, g.Derivation s t → t.height ≤ n + 1 → trees.count t = g.multiplicity t) ∧
      (∀ t, t ∈ trees ↔ g.Derivation s t ∧ t.height ≤ n + 1) ∧
      ((∀ r ∈ g.rules, r.alternatives.Nodup) → trees.Nodup) := by
  have hmem := Grammar.mem_treesAfter_iff g n s
  refine ⟨g.treesAfter n s, ?_, fun t ht => ?_, fun t => Grammar.count_treesAfter g n s t, hmem, fun hnodup => ?_⟩
  · rw [derivations, derivations?_of_table (h.table_eq hb).2, if_pos hs]
  · exact List.count_eq_zero.2 fun hin => ht ((hmem t).1 hin)
  · have halternatives : ∀ a, (g.alternatives a).Nodup := by
      intro a
      by_cases ha : a ∈ g.names
      · obtain ⟨r, hr, rfl⟩ := List.mem_map.1 ha
        rw [hb.alternatives_of_mem hr]
        exact hnodup r hr
      · rw [Grammar.alternatives, (Grammar.alternatives?_eq_none_iff g a).2 ha]
        exact List.nodup_nil
    refine List.nodup_iff_count_le_one.2 fun t => ?_
    by_cases ht : t ∈ g.treesAfter n s
    · obtain ⟨hd, hh⟩ := (hmem t).1 ht
      have hcount := Grammar.count_treesAfter g n s t hd hh
      rw [Grammar.multiplicity_eq_one halternatives hd.valid] at hcount
      exact Nat.le_of_eq hcount
    · rw [List.count_eq_zero.2 ht]
      exact Nat.zero_le 1

/-- a grammar that lists an alternative twice -/
def repeatedSample : Grammar := ⟨[⟨"S", [["S", "S"], ["a"], ["a"]]⟩]⟩

/-- the enumeration of its trees after two rounds -/
def repeatedRounds : Enumerator := (Enumerator.start repeatedSample 100).expand.enumerator.expand.enumerator

/-- the tree with two nodes over an `a` stands there four times -/
theorem count_derivations_repeated :
    repeatedSample.Built ∧ Reached repeatedSample 100 2 repeatedRounds ∧
      repeatedSample.multiplicity (.node "S" [.node "S" [.leaf "a"], .node "S" [.leaf "a"]]) = 4 ∧
      ∃ trees, repeatedRounds.derivations "S" = .ok trees ∧
        (∀ t, ¬ (repeatedSample.Derivation "S" t ∧ t.height ≤ 3) → trees.count t = 0) ∧
        (∀ t, repeatedSample.Derivation "S" t → t.height ≤ 3 → trees.count t = repeatedSample.multiplicity t) ∧
        (∀ t, t ∈ trees ↔ repeatedSample.Derivation "S" t ∧ t.height ≤ 3) ∧
        ((∀ r ∈ repeatedSample.rules, r.alternatives.Nodup) → trees.Nodup) := by
  have hb : repeatedSample.Built := ⟨[("S", ["S", "S"]), ("S", ["a"]), ("S", ["a"])], by rfl⟩
  have hreached : Reached repeatedSample 100 2 repeatedRounds := .grown (.grown .start (by decide)) (by decide)
  exact ⟨hb, hreached, by decide, count_derivations hb hreached (by decide)⟩

end Enumerator

end GrammarLab
