/-
Nonterminals without trees, as the analysis and the enumeration see them.

The analysis strikes nonterminals off a list of suspects, the enumeration collects trees level by level, and both go by
the height of trees: after `n` rounds the enumeration has no tree of a nonterminal just if the nonterminal has no low
tree (`treesAfter_eq_nil_iff_low`), which is when `n` rounds of the analysis leave it a suspect (`rounds_unrealizable`).
A tree, if there is any, need not be higher than one level more than there are nonterminals, so from that many rounds on
"no tree yet" means "no tree at all".
- `treesAfter_eq_nil_iff`: this, for the trees of the rounds;
- `derivations_eq_nil_iff_unrealizable`: for every enumeration that has got that far, however it was called.
-/
import GrammarLab.Proofs.Derivation.Limit

namespace GrammarLab

namespace Grammar

variable {g : Grammar} {n : Nat} {s : Symbol}

theorem treesAfter_eq_nil_iff_low (hs : s ∈ g.names) : g.treesAfter n s = [] ↔ ¬ g.Low (fun _ => True) n s := by
  rw [low_iff hs, List.eq_nil_iff_forall_not_mem]
  simp only [mem_treesAfter_iff, true_and, not_exists]

/-- **No tree after as many rounds as there are nonterminals means no tree.** -/
theorem treesAfter_eq_nil_iff (hn : g.names.length ≤ n) (hs : s ∈ g.names) :
    g.treesAfter n s = [] ↔ ¬ g.Realizable s := by
  rw [treesAfter_eq_nil_iff_low hs]
  refine not_congr ⟨fun hlow => ?_, fun ⟨t, ht⟩ => ?_⟩
  · obtain ⟨t, ht, -⟩ := (low_iff hs).1 hlow
    exact ⟨t, ht⟩
  · have hlow : g.Low (fun _ => True) t.height s := low_height ht trivial
    exact (hlow.length hereditary_any).mono hn

end Grammar

namespace Enumerator

variable {g : Grammar} {limit : Int} {a : Analysis} {s : Symbol}

/-- **The analysis and the enumeration agree on what generates nothing.** After any calls that left an enumeration with
at least as many successful rounds as the grammar has nonterminals, the list of trees of a nonterminal is there, and it is
empty if and only if the analysis reports the nonterminal as unrealizable. -/
theorem derivations_eq_nil_iff_unrealizable (hb : g.Built) (ha : g.analyse = .ok a) (script : List Call)
    (hdepth : g.names.length ≤ ((Enumerator.start g limit).calls script).depth) (hs : s ∈ g.names) :
    ∃ trees, ((Enumerator.start g limit).calls script).derivations s = .ok trees ∧ (trees = [] ↔ s ∈ a.unrealizable) := by
  obtain ⟨u, -, hu, -, rfl⟩ := Grammar.analyse_eq_ok_iff.1 ha
  have hstart : Reached g limit 0 (.start g limit) := .start
  obtain ⟨n, hreached⟩ := hstart.calls script
  rw [hreached.depth_eq] at hdepth
  refine ⟨g.treesAfter n s, ?_, ?_⟩
  · rw [derivations, derivations?_of_table (hreached.table_eq hb).2, if_pos hs]
  · rw [Grammar.treesAfter_eq_nil_iff hdepth hs, Grammar.mem_unrealizable_iff hb hu, and_iff_right hs]

/-- a grammar in which `S` has no tree before the last round that can bring one, and `X` never has any -/
def lateSample : Grammar :=
  ⟨[⟨"S", [["X"], ["A", "A"]]⟩, ⟨"A", [["B"]]⟩, ⟨"B", [["C", "C"]]⟩, ⟨"C", [["c"]]⟩, ⟨"X", [["x", "X"]]⟩]⟩

/-- after a run of three rounds and two more, the start symbol has trees and is not reported, and `X` has none and is -/
theorem derivations_eq_nil_iff_unrealizable_late :
    lateSample.Built ∧ ∃ a, lateSample.analyse = .ok a ∧
      lateSample.names.length ≤ ((Enumerator.start lateSample 100).calls [.expandTo 3, .expand, .expand]).depth ∧
      (∃ trees, ((Enumerator.start lateSample 100).calls [.expandTo 3, .expand, .expand]).derivations "S" = .ok trees ∧
        (trees = [] ↔ "S" ∈ a.unrealizable)) ∧
      (∃ trees, ((Enumerator.start lateSample 100).calls [.expandTo 3, .expand, .expand]).derivations "X" = .ok trees ∧
        (trees = [] ↔ "X" ∈ a.unrealizable)) ∧
      ((Enumerator.start lateSample 100).calls [.expandTo 3]).derivations "S" = .ok [] ∧
      "S" ∉ a.unrealizable ∧ "X" ∈ a.unrealizable := by
  have hb : lateSample.Built :=
    ⟨[("S", ["X"]), ("S", ["A", "A"]), ("A", ["B"]), ("B", ["C", "C"]), ("C", ["c"]), ("X", ["x", "X"])], by rfl⟩
  obtain ⟨a, ha⟩ := Grammar.exists_analysis hb (by decide)
  have hdepth : lateSample.names.length ≤
      ((Enumerator.start lateSample 100).calls [.expandTo 3, .expand, .expand]).depth := by decide
  have hS := derivations_eq_nil_iff_unrealizable hb ha _ hdepth (s := "S") (by decide)
  have hX := derivations_eq_nil_iff_unrealizable hb ha _ hdepth (s := "X") (by decide)
  refine ⟨hb, a, ha, hdepth, hS, hX, by rfl, ?_, ?_⟩
  · obtain ⟨trees, htrees, hiff⟩ := hS
    rw [← hiff]
    rintro rfl
    exact absurd htrees (by decide)
  · obtain ⟨trees, htrees, hiff⟩ := hX
    rw [← hiff]
    have hnone : ((Enumerator.start lateSample 100).calls [.expandTo 3, .expand, .expand]).derivations "X" = .ok [] := by
      rfl
    exact Except.ok.inj (htrees.symm.trans hnone)

end Enumerator

end GrammarLab
