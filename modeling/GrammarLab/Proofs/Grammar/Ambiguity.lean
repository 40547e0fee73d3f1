/-
What a report of infinite ambiguity means.

- `Analysed.infinitelyAmbiguous_iff_leads`: the analysis reports infinite ambiguity if and only if the start symbol leads
  to a nonterminal from which some word has infinitely many derivation trees;
- `infinitelyAmbiguous_exact`: so a grammar with such a word from the start symbol itself is always reported. The report
  is right just when a nonterminal that comes back to itself occurs in a derivation tree of the start symbol, and it can
  be relied on wherever every reachable nonterminal is realizable;
- `infinitelyAmbiguous_blocked`: it is a false alarm where the only way to such a nonterminal runs beside one that
  generates nothing.
-/
import GrammarLab.Proofs.Tree.Cycles

namespace GrammarLab.Grammar

variable {g : Grammar} {s : Symbol} {a : Analysis}

/-- **What is reported**: some word has infinitely many derivation trees from a nonterminal that the start symbol leads
to, whether or not those trees can be completed to trees of the start symbol. -/
theorem Analysed.infinitelyAmbiguous_iff_leads (h : g.Analysed s a) :
    a.infinitelyAmbiguous = true ↔ ∃ b, g.Leads s b ∧ ∃ w, (g.readings b w).Infinite := by
  rw [h.infinitelyAmbiguous_iff]
  constructor
  · rintro ⟨b, hcyclic, hleads, t, ht⟩
    exact ⟨b, hleads, t.leaves, hcyclic.infinite_readings ht⟩
  · rintro ⟨b, hleads, hinf⟩
    obtain ⟨c, hcyclic, hoccurs⟩ := (exists_infinite_readings_iff g b).1 hinf
    exact ⟨c, hcyclic, hleads.trans hoccurs.leads, hoccurs.realizable⟩

/-- without a report every word has finitely many derivation trees from whatever the start symbol leads to -/
theorem Analysed.finite_readings (h : g.Analysed s a) (hfalse : a.infinitelyAmbiguous = false) {b : Symbol}
    (hleads : g.Leads s b) (w : List Symbol) : (g.readings b w).Finite := by
  by_contra hinf
  rw [h.infinitelyAmbiguous_iff_leads.2 ⟨b, hleads, w, hinf⟩] at hfalse
  cases hfalse

theorem Analysed.exists_infinite_readings_iff (h : g.Analysed s a) :
    (∃ w, (g.readings s w).Infinite) ↔ ∃ b ∈ a.cyclic, g.Occurs s b := by
  simp only [Grammar.exists_infinite_readings_iff, h.cyclic]

/-- where every reachable nonterminal is realizable, all that the start symbol leads to occurs in its trees -/
theorem Analysed.occurs (h : g.Analysed s a) (hs : s ∈ g.names) (hreal : ∀ b ∈ a.unrealizable, b ∈ a.unreachable)
    {b : Symbol} (hleads : g.Leads s b) : g.Occurs s b := by
  refine hleads.occurs fun c hc => ?_
  by_contra hno
  have hblocked := (h.unrealizable c).2 ⟨hc.mem_names hs, hno⟩
  exact ((h.unreachable c).1 (hreal c hblocked)).2 hc

/-- **How far a report of infinite ambiguity can be trusted.** A word with infinitely many derivation trees from the
start symbol is always reported. A report is right if and only if one of the cyclic nonterminals occurs in a derivation
tree of the start symbol, and always if every reachable nonterminal is realizable. -/
theorem infinitelyAmbiguous_exact (hb : g.Built) (hs : g.start? = some s) (ha : g.analyse = .ok a) :
    ((∃ w, (g.readings s w).Infinite) → a.infinitelyAmbiguous = true) ∧
      ((a.infinitelyAmbiguous = true ↔ ∃ w, (g.readings s w).Infinite) ↔
        (a.infinitelyAmbiguous = true → ∃ b ∈ a.cyclic, g.Occurs s b)) ∧
      ((∀ b ∈ a.unrealizable, b ∈ a.unreachable) →
        (a.infinitelyAmbiguous = true ↔ ∃ w, (g.readings s w).Infinite)) := by
  have h := analysed hb hs ha
  have hreported : (∃ w, (g.readings s w).Infinite) → a.infinitelyAmbiguous = true := fun hinf =>
    h.infinitelyAmbiguous_iff_leads.2 ⟨s, .refl, hinf⟩
  have hright : (a.infinitelyAmbiguous = true → ∃ b ∈ a.cyclic, g.Occurs s b) →
      (a.infinitelyAmbiguous = true ↔ ∃ w, (g.readings s w).Infinite) := fun hoccurs =>
    ⟨fun htrue => h.exists_infinite_readings_iff.2 (hoccurs htrue), hreported⟩
  refine ⟨hreported, ⟨fun hiff htrue => h.exists_infinite_readings_iff.1 (hiff.1 htrue), hright⟩, fun hreal => ?_⟩
  refine hright fun htrue => ?_
  obtain ⟨b, hcyclic, hleads, -⟩ := h.infinitelyAmbiguous_iff.1 htrue
  exact ⟨b, (h.cyclic b).2 hcyclic, h.occurs (mem_names_of_start? hs) hreal hleads⟩

/-- a grammar in which `S` comes back to itself beside a symbol that vanishes -/
def loopSample : Grammar := ⟨[⟨"S", [["S", "E"], ["a"]]⟩, ⟨"E", [[]]⟩]⟩

/-- a report that is right: every nonterminal is realizable, and `a` has infinitely many trees -/
theorem infinitelyAmbiguous_exact_loop :
    loopSample.Built ∧ loopSample.start? = some "S" ∧ ∃ a, loopSample.analyse = .ok a ∧
      (((∃ w, (loopSample.readings "S" w).Infinite) → a.infinitelyAmbiguous = true) ∧
        ((a.infinitelyAmbiguous = true ↔ ∃ w, (loopSample.readings "S" w).Infinite) ↔
          (a.infinitelyAmbiguous = true → ∃ b ∈ a.cyclic, loopSample.Occurs "S" b)) ∧
        ((∀ b ∈ a.unrealizable, b ∈ a.unreachable) →
          (a.infinitelyAmbiguous = true ↔ ∃ w, (loopSample.readings "S" w).Infinite))) ∧
      a.infinitelyAmbiguous = true := by
  have hb : loopSample.Built := ⟨[("S", ["S", "E"]), ("S", ["a"]), ("E", [])], by rfl⟩
  obtain ⟨a, ha⟩ := exists_analysis hb (by decide)
  refine ⟨hb, rfl, a, ha, infinitelyAmbiguous_exact hb rfl ha, ?_⟩
  have hempty : loopSample.Vanishes "E" := ⟨.node "E" [], ⟨rfl, .node (by decide) (by simp)⟩, rfl⟩
  have hcyclic : loopSample.Cyclic "S" := .single ⟨by decide, [], ["E"], by decide, by simpa using hempty⟩
  have hletter : loopSample.Derivation "S" (.node "S" [.leaf "a"]) :=
    ⟨rfl, .node (by decide) (by simpa using .leaf (by decide))⟩
  exact (analysed hb rfl ha).infinitelyAmbiguous_iff.2 ⟨"S", hcyclic, .refl, _, hletter⟩

/-! ## A false alarm -/

/-- a grammar in which `A` comes back to itself, but stands only beside `X`, which generates nothing -/
def blockedSample : Grammar := ⟨[⟨"S", [["A", "X"], ["b"]]⟩, ⟨"A", [["A"], ["a"]]⟩, ⟨"X", [["x", "X"]]⟩]⟩

theorem symbol_ne_of_valid_blocked {t : ParseTree} (h : blockedSample.Valid t) : t.symbol ≠ "X" := by
  induction h with
  | leaf terminal =>
    rintro rfl
    exact absurd terminal (by decide)
  | @node s cs rule below ih =>
    rintro rfl
    have hsymbols : cs.map ParseTree.symbol = ["x", "X"] := by
      simpa [blockedSample, alternatives, alternatives?] using rule
    have hmem : "X" ∈ cs.map ParseTree.symbol := by
      rw [hsymbols]
      decide
    obtain ⟨c, hc, hX⟩ := List.mem_map.1 hmem
    exact ih c hc hX

/-- the only tree of the start symbol is over `b` -/
theorem derivation_blocked {t : ParseTree} (h : blockedSample.Derivation "S" t) : t = .node "S" [.leaf "b"] := by
  cases t with
  | leaf a => exact absurd h not_derivation_leaf
  | node a cs =>
    obtain ⟨rfl, hvalid⟩ := derivation_node_iff.1 h
    have hsymbols : cs.map ParseTree.symbol = ["A", "X"] ∨ cs.map ParseTree.symbol = ["b"] := by
      simpa [blockedSample, alternatives, alternatives?] using hvalid.rule_mem
    rcases hsymbols with hsymbols | hsymbols
    · have hmem : "X" ∈ cs.map ParseTree.symbol := by
        rw [hsymbols]
        decide
      obtain ⟨c, hc, hX⟩ := List.mem_map.1 hmem
      exact absurd hX (symbol_ne_of_valid_blocked (hvalid.of_mem hc))
    · obtain ⟨c, rfl, hc⟩ := List.map_eq_singleton_iff.1 hsymbols
      cases c with
      | leaf b =>
        obtain rfl : b = "b" := hc
        rfl
      | node b ds =>
        obtain rfl : b = "b" := hc
        exact absurd (hvalid.of_mem (List.mem_singleton_self _)).mem_names (by decide)

/-- **A report of infinite ambiguity may be false**: `A` is cyclic, reachable and realizable, but the start symbol has a
single derivation tree. -/
theorem infinitelyAmbiguous_blocked :
    blockedSample.Built ∧ blockedSample.start? = some "S" ∧ ∃ a, blockedSample.analyse = .ok a ∧
      a.infinitelyAmbiguous = true ∧ ¬ ∃ w, (blockedSample.readings "S" w).Infinite := by
  have hb : blockedSample.Built :=
    ⟨[("S", ["A", "X"]), ("S", ["b"]), ("A", ["A"]), ("A", ["a"]), ("X", ["x", "X"])], by rfl⟩
  obtain ⟨a, ha⟩ := exists_analysis hb (by decide)
  refine ⟨hb, rfl, a, ha, ?_, ?_⟩
  · have hcyclic : blockedSample.Cyclic "A" := .single ⟨by decide, [], [], by decide, by simp⟩
    have hleads : blockedSample.Leads "S" "A" := .single ⟨by decide, ["A", "X"], by decide, by decide⟩
    have hletter : blockedSample.Derivation "A" (.node "A" [.leaf "a"]) :=
      ⟨rfl, .node (by decide) (by simpa using .leaf (by decide))⟩
    exact (analysed hb rfl ha).infinitelyAmbiguous_iff.2 ⟨"A", hcyclic, hleads, _, hletter⟩
  · rintro ⟨w, hinf⟩
    refine hinf ((Set.finite_singleton (ParseTree.node "S" [.leaf "b"])).subset fun t ht => ?_)
    exact derivation_blocked ht.1

end GrammarLab.Grammar
