/-
The parser and the enumerator find the same trees.

One goes through the tokens from their end and fills state sets, the other goes from low trees to high ones and never sees
a token. Both are measured by derivation trees: `has_topItem_iff` for a chart of which no state set was given up,
`Enumerator.Reached.mem_derivations` for an enumeration after some rounds. `parse_agrees_with_enumeration` compares them:
the enumerated trees that spell the tokens are the parsed trees that are low enough.
-/
import GrammarLab.Proofs.Chart.Trees
import GrammarLab.Proofs.Derivation.Counting

namespace GrammarLab

namespace Enumerator

/-- the trees of a nonterminal after `n` rounds can be asked for, and are its derivation trees of at most `n + 1` levels -/
theorem Reached.mem_derivations {g : Grammar} {limit : Int} {n : Nat} {e : Enumerator} (hb : g.Built)
    (h : Reached g limit n e) {s : Symbol} (hs : s ∈ g.names) :
    ∃ trees, e.derivations s = .ok trees ∧ ∀ t, t ∈ trees ↔ g.Derivation s t ∧ t.height ≤ n + 1 := by
  refine ⟨g.treesAfter n s, ?_, Grammar.mem_treesAfter_iff g n s⟩
  rw [derivations, h.derivations?_eq hb hs]

end Enumerator

namespace Chart

variable {g : Grammar} {s : Symbol} {tokens : List Symbol} {limit : Int} {t : ParseTree}

/-- whatever was given up, a completed item of the top name is over a derivation tree that spells the tokens -/
theorem derivation_of_has_topItem (hb : g.Built) (htop : g.TopFree) (hs : s ∈ g.names)
    (h : (chartFrom g s limit 0 tokens).Has 0 (topItem s tokens t)) : g.Derivation s t ∧ t.leaves = tokens :=
  derivation_of_top_arises hb htop hs (arises_of_has tokens 0 (Nat.zero_le _) rfl 0 _ h)

/-- if nothing was given up, there is such an item over each of those trees -/
theorem has_topItem_iff (hb : g.Built) (htop : g.TopFree) (hs : s ∈ g.names)
    (hcomplete : (chartFrom g s limit 0 tokens).complete = true) :
    (chartFrom g s limit 0 tokens).Has 0 (topItem s tokens t) ↔ g.Derivation s t ∧ t.leaves = tokens := by
  constructor
  · exact derivation_of_has_topItem hb htop hs
  · rintro ⟨ht, hleaves⟩
    exact has_of_arises hb htop hs tokens 0 (Nat.zero_le _) rfl hcomplete 0 _ (top_arises t ht hleaves)

/-- **Parser and enumerator agree.** After `n` rounds that succeeded, an enumeration with any limit has every parsed tree
of at most `n + 1` levels, whether or not the parse is complete. If it is, those are all the enumerated trees whose leaves
are the tokens. -/
theorem parse_agrees_with_enumeration (hb : g.Built) (htop : g.TopFree) (hs : g.start? = some s) (tokens : List Symbol)
    (limit : Int) {sizeLimit : Int} {n : Nat} {e : Enumerator} (h : Enumerator.Reached g sizeLimit n e) :
    ∃ p trees, parse g tokens limit = .ok p ∧ e.derivations s = .ok trees ∧
      (∀ t ∈ p.trees, t.height ≤ n + 1 → t ∈ trees ∧ t.leaves = tokens) ∧
      (p.complete = true → ∀ t, t ∈ trees ∧ t.leaves = tokens ↔ t ∈ p.trees ∧ t.height ≤ n + 1) := by
  have hstart := Grammar.mem_names_of_start? hs
  obtain ⟨p, hp, hcomplete, -, hparsed⟩ := parse_eq_ok hb hs tokens limit
  obtain ⟨trees, htrees, henumerated⟩ := h.mem_derivations hb hstart
  refine ⟨p, trees, hp, htrees, fun t ht hheight => ?_, fun hdone t => ?_⟩
  · obtain ⟨hd, hleaves⟩ := derivation_of_has_topItem hb htop hstart ((hparsed t).1 ht)
    exact ⟨(henumerated t).2 ⟨hd, hheight⟩, hleaves⟩
  · calc t ∈ trees ∧ t.leaves = tokens
        ↔ (g.Derivation s t ∧ t.leaves = tokens) ∧ t.height ≤ n + 1 := by rw [henumerated, and_right_comm]
      _ ↔ t ∈ p.trees ∧ t.height ≤ n + 1 := by
          rw [hparsed, has_topItem_iff hb htop hstart (hcomplete ▸ hdone)]

/-- a grammar in which an `a` has infinitely many trees, and a `b` has one of three levels -/
def mixedSample : Grammar := ⟨[⟨"S", [["A"], ["b", "E"]]⟩, ⟨"A", [["A"], ["a"]]⟩, ⟨"E", [[]]⟩]⟩

/-- after two rounds the tree of the `b` has been enumerated, and a parse of it is complete -/
theorem parse_agrees_with_enumeration_mixed :
    mixedSample.Built ∧ mixedSample.TopFree ∧ mixedSample.start? = some "S" ∧
      ∃ e, Enumerator.Reached mixedSample 100 2 e ∧ ∃ p trees, parse mixedSample ["b"] 100 = .ok p ∧
        e.derivations "S" = .ok trees ∧ p.complete = true ∧
        ∀ t, t ∈ trees ∧ t.leaves = ["b"] ↔ t ∈ p.trees ∧ t.height ≤ 3 := by
  have hb : mixedSample.Built := ⟨[("S", ["A"]), ("S", ["b", "E"]), ("A", ["A"]), ("A", ["a"]), ("E", [])], by rfl⟩
  have hs : mixedSample.start? = some "S" := rfl
  have hreached : Enumerator.Reached mixedSample 100 2
      (Enumerator.start mixedSample 100).expand.enumerator.expand.enumerator := .grown (.grown .start (by decide)) (by decide)
  obtain ⟨p, trees, hp, htrees, -, hagree⟩ := parse_agrees_with_enumeration hb (by decide) hs ["b"] 100 hreached
  have hdone : p.complete = true := by
    rw [complete_eq_of_parse hs hp]
    open Evaluation in simp [mixedSample]
  exact ⟨hb, by decide, hs, _, hreached, p, trees, hp, htrees, hdone, hagree hdone⟩

end Chart

end GrammarLab
