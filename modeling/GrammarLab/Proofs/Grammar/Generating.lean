/-
Nonterminals that generate nothing, and nonterminals that generate the empty string.

Main statements, for a grammar that was built and analysed:
- `mem_unrealizable_iff`: the unrealizable nonterminals are those without a derivation tree;
- `mem_nullable_iff`: the nullable nonterminals are those with a derivation tree that has no leaf;
- `exists_analysis`: the analysis of a grammar with fewer rules than the bound on iterations does not fail;
- `unrealizable_exact`, `nullable_exact`: what an analysis reports as unrealizable and as nullable.
Both sets are the ends of iterations, and what their rounds hold is known by the height of trees; at the end the height
does not matter any more.
-/
import GrammarLab.Proofs.Grammar.Rounds

namespace GrammarLab.Grammar

section

variable {g : Grammar} {s : Symbol} {l : List Symbol}

/-! ## The two sets -/

/-- the symbol has a derivation tree -/
def Realizable (g : Grammar) (s : Symbol) : Prop := ∃ t, g.Derivation s t

/-- the symbol has a derivation tree without leaves -/
def Vanishes (g : Grammar) (s : Symbol) : Prop := ∃ t, g.Derivation s t ∧ t.leaves = []

theorem Realizable.mem_names (h : g.Realizable s) : s ∈ g.names := by
  obtain ⟨t, ht⟩ := h
  cases t with
  | leaf a => exact absurd ht not_derivation_leaf
  | node a cs =>
    obtain ⟨rfl, hvalid⟩ := derivation_node_iff.1 ht
    exact hvalid.mem_names

theorem Vanishes.realizable (h : g.Vanishes s) : g.Realizable s := ⟨h.choose, h.choose_spec.1⟩

/-- a symbol that is a terminal or has a derivation tree has a valid tree -/
theorem exists_valid (h : s ∈ g.names → g.Realizable s) : ∃ t, t.symbol = s ∧ g.Valid t := by
  by_cases hs : s ∈ g.names
  · obtain ⟨t, ht⟩ := h hs
    exact ⟨t, ht.symbol_eq, ht.valid⟩
  · exact ⟨.leaf s, rfl, valid_leaf_iff.2 hs⟩

theorem Vanishes.exists_valid (h : g.Vanishes s) : ∃ t, t.symbol = s ∧ g.Valid t ∧ t.leaves = [] := by
  obtain ⟨t, ht, hleaves⟩ := h
  exact ⟨t, ht.symbol_eq, ht.valid, hleaves⟩

/-- a valid tree without leaves is no leaf -/
theorem Valid.vanishes {t : ParseTree} (h : g.Valid t) (hleaves : t.leaves = []) : g.Vanishes t.symbol := by
  cases t with
  | leaf a => simp at hleaves
  | node a cs => exact ⟨.node a cs, ⟨rfl, h⟩, hleaves⟩

/-- a symbol vanishes if all symbols of one of its alternatives do -/
theorem vanishes_of_alternative {rhs : List Symbol} (rule : rhs ∈ g.alternatives s) (h : ∀ b ∈ rhs, g.Vanishes b) :
    g.Vanishes s := by
  obtain ⟨cs, rfl, hcs⟩ := exists_trees (P := fun t => g.Valid t ∧ t.leaves = []) fun b hb => (h b hb).exists_valid
  refine ⟨_, derivation_node rule fun c hc => (hcs c hc).1, ?_⟩
  rw [ParseTree.leaves_node, List.flatMap_eq_nil_iff]
  exact fun c hc => (hcs c hc).2

/-- a symbol vanishes only if all symbols of one of its alternatives do -/
theorem Vanishes.exists_alternative (h : g.Vanishes s) : ∃ rhs ∈ g.alternatives s, ∀ b ∈ rhs, g.Vanishes b := by
  obtain ⟨t, ht, hleaves⟩ := h
  cases t with
  | leaf a => exact absurd ht not_derivation_leaf
  | node a cs =>
    obtain ⟨rfl, hvalid⟩ := derivation_node_iff.1 ht
    rw [ParseTree.leaves_node, List.flatMap_eq_nil_iff] at hleaves
    refine ⟨_, hvalid.rule_mem, fun b hb => ?_⟩
    obtain ⟨c, hc, rfl⟩ := List.mem_map.1 hb
    exact (hvalid.of_mem hc).vanishes (hleaves c hc)

/-- no symbol of a valid tree is in a set of nonterminals that its step leaves as it is -/
theorem Valid.symbol_not_mem (hb : g.Built) (hnames : ∀ a ∈ l, a ∈ g.names) (hend : g.unrealizableStep l = l)
    {t : ParseTree} (h : g.Valid t) : t.symbol ∉ l := by
  induction h with
  | leaf terminal => exact fun ha => (isTerminal_iff g _).1 terminal (hnames _ ha)
  | @node a cs rule below ih =>
    intro ha
    have hmem : a ∈ g.unrealizableStep l := hend.symm ▸ ha
    rw [hb.unrealizableStep_eq, List.mem_filter, decide_eq_true_eq] at hmem
    obtain ⟨b, hbc, hbl⟩ := hmem.2.2 _ rule
    obtain ⟨c, hc, rfl⟩ := List.mem_map.1 hbc
    exact ih c hc hbl

/-- **The unrealizable nonterminals are those without a derivation tree.** -/
theorem mem_unrealizable_iff (hb : g.Built) (h : iterate g.unrealizableStep g.names = .ok l) :
    s ∈ l ↔ s ∈ g.names ∧ ¬ g.Realizable s := by
  obtain ⟨n, -, hsettled, rfl⟩ := (iterate_unrealizableStep_iff hb).1 h
  simp only [List.mem_filter, decide_eq_true_eq]
  refine and_congr_right fun hs => not_congr ?_
  rw [hsettled.low_iff_exists hereditary_any hs]
  simp only [and_true, Realizable]

/-- **The nullable nonterminals are those with a derivation tree that has no leaf.** -/
theorem mem_nullable_iff (hb : g.Built) (h : iterate g.nullableStep [] = .ok l) : s ∈ l ↔ g.Vanishes s := by
  obtain ⟨n, -, hsettled, rfl⟩ := (iterate_nullableStep_iff hb).1 h
  simp only [List.mem_filter, decide_eq_true_eq]
  constructor
  · rintro ⟨hs, hlow⟩
    exact (hsettled.low_iff_exists hereditary_leafless hs).1 hlow
  · intro hvanishes
    have hs := hvanishes.realizable.mem_names
    exact ⟨hs, (hsettled.low_iff_exists hereditary_leafless hs).2 hvanishes⟩

/-! ## The analysis -/

theorem analyse_eq_ok_iff {a : Analysis} :
    g.analyse = .ok a ↔ ∃ u n, iterate g.unrealizableStep g.names = .ok u ∧ iterate g.nullableStep [] = .ok n ∧
      a = ⟨g, g.unreachable, u, n, g.cyclic n⟩ := by
  unfold analyse
  cases iterate g.unrealizableStep g.names with
  | error e => simp [bind, Except.bind]
  | ok u =>
    cases iterate g.nullableStep [] with
    | error e => simp [bind, Except.bind]
    | ok n => simp [bind, Except.bind, pure, Except.pure, eq_comm]

/-- **When the analysis has an answer**: for derivation trees and for those without leaves there is a level below the
bound on iterations above which no level brings a nonterminal. -/
theorem exists_analysis_iff (hb : g.Built) :
    (∃ a, g.analyse = .ok a) ↔ (∃ n < fixpointBound, g.Settled (fun _ => True) n) ∧
      ∃ n < fixpointBound, g.Settled (fun t => t.leaves = []) n := by
  simp only [analyse_eq_ok_iff, iterate_unrealizableStep_iff hb, iterate_nullableStep_iff hb]
  constructor
  · rintro ⟨-, -, -, ⟨n, hn, hsettled, -⟩, ⟨m, hm, hsettled', -⟩, -⟩
    exact ⟨⟨n, hn, hsettled⟩, m, hm, hsettled'⟩
  · rintro ⟨⟨n, hn, hsettled⟩, m, hm, hsettled'⟩
    exact ⟨_, _, _, ⟨n, hn, hsettled, rfl⟩, ⟨m, hm, hsettled', rfl⟩, rfl⟩

/-- **The analysis of a grammar with fewer rules than the bound on iterations has an answer.** -/
theorem exists_analysis (hb : g.Built) (h : g.names.length < fixpointBound) : ∃ a, g.analyse = .ok a := by
  obtain ⟨n, hn, hsettled⟩ := exists_settled g fun _ => True
  obtain ⟨m, hm, hsettled'⟩ := exists_settled g fun t => t.leaves = []
  exact (exists_analysis_iff hb).2 ⟨⟨n, by omega, hsettled⟩, m, by omega, hsettled'⟩

/-- what an iteration of removals from the names ends in is in the order of the grammar -/
theorem Built.unrealizable_sublist (hb : g.Built) (h : iterate g.unrealizableStep g.names = .ok l) :
    l.Sublist g.names := by
  obtain ⟨n, -, -, rfl⟩ := (iterate_unrealizableStep_iff hb).1 h
  exact List.filter_sublist

/-- what an iteration of additions to nothing ends in is in the order of the grammar -/
theorem Built.nullable_sublist (hb : g.Built) (h : iterate g.nullableStep [] = .ok l) : l.Sublist g.names := by
  obtain ⟨n, -, -, rfl⟩ := (iterate_nullableStep_iff hb).1 h
  exact List.filter_sublist

/-- **The analysis reports as unrealizable exactly the nonterminals without a derivation tree**, each once and in the
order of the grammar. What a round removes from the suspects has a tree, one level higher with each round; what is left
when nothing more is removed has none of any height. -/
theorem unrealizable_exact (hb : g.Built) {a : Analysis} (ha : g.analyse = .ok a) :
    a.unrealizable.Nodup ∧ a.unrealizable.Sublist g.names ∧
      ∀ s, s ∈ a.unrealizable ↔ s ∈ g.names ∧ ¬ ∃ t, g.Derivation s t := by
  obtain ⟨u, n, hu, -, rfl⟩ := analyse_eq_ok_iff.1 ha
  have hsub : u.Sublist g.names := hb.unrealizable_sublist hu
  exact ⟨hb.names_nodup.sublist hsub, hsub, fun s => mem_unrealizable_iff hb hu⟩

/-- a grammar in which `A` and `B` wait for each other, and `S` does without them -/
def deadlockedSample : Grammar := ⟨[⟨"S", [["A", "b"], ["C"]]⟩, ⟨"A", [["B"]]⟩, ⟨"B", [["A"], ["x", "B"]]⟩, ⟨"C", [[]]⟩]⟩

/-- the two are reported, and the start symbol is not -/
theorem unrealizable_exact_deadlocked :
    deadlockedSample.Built ∧ ∃ a, deadlockedSample.analyse = .ok a ∧
      (a.unrealizable.Nodup ∧ a.unrealizable.Sublist deadlockedSample.names ∧
        ∀ s, s ∈ a.unrealizable ↔ s ∈ deadlockedSample.names ∧ ¬ ∃ t, deadlockedSample.Derivation s t) ∧
      "A" ∈ a.unrealizable ∧ "B" ∈ a.unrealizable ∧ "S" ∉ a.unrealizable := by
  have hb : deadlockedSample.Built :=
    ⟨[("S", ["A", "b"]), ("S", ["C"]), ("A", ["B"]), ("B", ["A"]), ("B", ["x", "B"]), ("C", [])], by rfl⟩
  obtain ⟨a, ha⟩ := exists_analysis hb (by decide)
  have hexact := unrealizable_exact hb ha
  have hclosed : deadlockedSample.unrealizableStep ["A", "B"] = ["A", "B"] := by
    rw [hb.unrealizableStep_eq]
    decide
  have hnone : ∀ s ∈ ["A", "B"], ¬ ∃ t, deadlockedSample.Derivation s t := by
    rintro s hs ⟨t, ht⟩
    exact ht.valid.symbol_not_mem hb (by decide) hclosed (ht.symbol_eq.symm ▸ hs)
  have hempty : deadlockedSample.Valid (.node "C" []) := .node (by decide) (by simp)
  have hsome : deadlockedSample.Derivation "S" (.node "S" [.node "C" []]) :=
    ⟨rfl, .node (by decide) (by simpa using hempty)⟩
  exact ⟨hb, a, ha, hexact, (hexact.2.2 "A").2 ⟨by decide, hnone "A" (by decide)⟩,
    (hexact.2.2 "B").2 ⟨by decide, hnone "B" (by decide)⟩, fun hS => ((hexact.2.2 "S").1 hS).2 ⟨_, hsome⟩⟩

/-- **The analysis reports as nullable exactly the nonterminals with a derivation tree without a leaf**, each once and in
the order of the grammar. What is collected has such a tree, one level higher with each round, and a symbol that has one
is collected after as many rounds as the tree has levels. -/
theorem nullable_exact (hb : g.Built) {a : Analysis} (ha : g.analyse = .ok a) :
    a.nullable.Nodup ∧ a.nullable.Sublist g.names ∧
      ∀ s, s ∈ a.nullable ↔ ∃ t, g.Derivation s t ∧ t.leaves = [] := by
  obtain ⟨u, n, -, hn, rfl⟩ := analyse_eq_ok_iff.1 ha
  have hsub : n.Sublist g.names := hb.nullable_sublist hn
  exact ⟨hb.names_nodup.sublist hsub, hsub, fun s => mem_nullable_iff hb hn⟩

/-- a grammar in which `S` vanishes only through `B` twice and `A`, and `C` never without an `x` -/
def vanishingSample : Grammar :=
  ⟨[⟨"S", [["B", "A", "B"], ["x"]]⟩, ⟨"A", [["B", "B"], ["C"]]⟩, ⟨"B", [["x"], []]⟩, ⟨"C", [["A", "x"]]⟩]⟩

/-- the start symbol is reported, and `C` is not -/
theorem nullable_exact_nested :
    vanishingSample.Built ∧ ∃ a, vanishingSample.analyse = .ok a ∧
      (a.nullable.Nodup ∧ a.nullable.Sublist vanishingSample.names ∧
        ∀ s, s ∈ a.nullable ↔ ∃ t, vanishingSample.Derivation s t ∧ t.leaves = []) ∧
      "S" ∈ a.nullable ∧ "C" ∉ a.nullable := by
  have hb : vanishingSample.Built :=
    ⟨[("S", ["B", "A", "B"]), ("S", ["x"]), ("A", ["B", "B"]), ("A", ["C"]), ("B", ["x"]), ("B", []),
      ("C", ["A", "x"])], by rfl⟩
  obtain ⟨a, ha⟩ := exists_analysis hb (by decide)
  have hexact := nullable_exact hb ha
  have ruleB : [] ∈ vanishingSample.alternatives "B" := by decide
  have ruleA : ["B", "B"] ∈ vanishingSample.alternatives "A" := by decide
  have ruleS : ["B", "A", "B"] ∈ vanishingSample.alternatives "S" := by decide
  have hB : vanishingSample.Vanishes "B" := vanishes_of_alternative ruleB (by simp)
  have hA : vanishingSample.Vanishes "A" := vanishes_of_alternative ruleA (by simpa using hB)
  have hS : vanishingSample.Vanishes "S" := vanishes_of_alternative ruleS (by simp [hA, hB])
  refine ⟨hb, a, ha, hexact, (hexact.2.2 "S").2 hS, fun hC => ?_⟩
  -- the only alternative of `C` holds a terminal, which does not vanish
  obtain ⟨rhs, hrhs, hall⟩ := Vanishes.exists_alternative ((hexact.2.2 "C").1 hC)
  obtain rfl : rhs = ["A", "x"] := by simpa [vanishingSample, alternatives, alternatives?] using hrhs
  exact absurd (hall "x" (by decide)).realizable.mem_names (by decide)

end

end GrammarLab.Grammar
