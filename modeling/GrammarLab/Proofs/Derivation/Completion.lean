/-
When an enumeration is finished.

An enumeration stops when a round leaves the number of trees as it is. `Reached.finished_iff` says what that means: after
`n` rounds it is finished if and only if the last of them could add nothing, that is, no derivation tree at all has more
than `n` levels. From one round to the next no tree is lost and none stands less often (`subperm_treesAfter`), so equal
numbers are equal lists up to order, and the round after would be the same again (`countAfter_eq_iff_shallow`).

`Reached.expandTimes` is the run: it ends after as many rounds as asked for, unless it is finished or a round fails and
says so.
-/
import GrammarLab.Proofs.Derivation.Counting
import GrammarLab.Proofs.Tree.Shallow
import Mathlib.Algebra.Order.BigOperators.Group.List
import Mathlib.Algebra.Order.Group.Nat

namespace GrammarLab

namespace Grammar

variable {g : Grammar} {n m : Nat} {s : Symbol}

/-- if the trees of `m` rounds fit into `n`, they are among those of `n` rounds, each as often -/
theorem subperm_treesAfter (hfit : ∀ t, g.Derivation s t → t.height ≤ m + 1 → t.height ≤ n + 1) :
    (g.treesAfter m s).Subperm (g.treesAfter n s) := by
  refine List.subperm_iff_count.2 fun t => ?_
  by_cases ht : t ∈ g.treesAfter m s
  · obtain ⟨hd, hheight⟩ := (mem_treesAfter_iff g m s t).1 ht
    rw [count_treesAfter g m s t hd hheight, count_treesAfter g n s t hd (hfit t hd hheight)]
  · rw [List.count_eq_zero.2 ht]
    exact Nat.zero_le _

theorem length_treesAfter_le (g : Grammar) (n : Nat) (s : Symbol) :
    (g.treesAfter n s).length ≤ (g.treesAfter (n + 1) s).length :=
  (subperm_treesAfter fun _ _ hheight => by omega).length_le

/-- the number of trees of all nonterminals after some rounds -/
def countAfter (g : Grammar) (n : Nat) : Nat := (g.names.map fun s => (g.treesAfter n s).length).sum

/-- a round that leaves the number of trees as it is leaves that of every nonterminal as it is -/
theorem length_treesAfter_eq (h : g.countAfter (n + 1) = g.countAfter n) (hs : s ∈ g.names) :
    (g.treesAfter n s).length = (g.treesAfter (n + 1) s).length := by
  by_contra hne
  have hlt : (g.treesAfter n s).length < (g.treesAfter (n + 1) s).length :=
    Nat.lt_of_le_of_ne (length_treesAfter_le g n s) hne
  have hsum : g.countAfter n < g.countAfter (n + 1) :=
    List.sum_lt_sum _ _ (fun a _ => length_treesAfter_le g n a) ⟨s, hs, hlt⟩
  omega

/-- **A round adds nothing just if there is nothing to add**: equal numbers of trees before and after it mean that no
derivation tree is higher than those already found. -/
theorem countAfter_eq_iff_shallow : g.countAfter (n + 1) = g.countAfter n ↔ g.Shallow n := by
  constructor
  · intro hsame
    refine shallow_of_step fun s t ht hheight => ?_
    have hsub : (g.treesAfter n s).Subperm (g.treesAfter (n + 1) s) := subperm_treesAfter fun _ _ h => by omega
    have hperm : (g.treesAfter n s).Perm (g.treesAfter (n + 1) s) :=
      hsub.perm_of_length_le (length_treesAfter_eq hsame ht.mem_names).ge
    have hlater : t ∈ g.treesAfter (n + 1) s := (mem_treesAfter_iff g (n + 1) s t).2 ⟨ht, hheight⟩
    exact ((mem_treesAfter_iff g n s t).1 (hperm.mem_iff.2 hlater)).2
  · intro hshallow
    have hlength : ∀ s, (g.treesAfter (n + 1) s).length = (g.treesAfter n s).length := fun s =>
      Nat.le_antisymm (subperm_treesAfter fun t ht _ => hshallow s t ht).length_le (length_treesAfter_le g n s)
    simp only [countAfter, hlength]

/-- the rounds that no tree is higher than find all trees -/
theorem Shallow.mem_treesAfter_iff (h : g.Shallow n) (hnm : n ≤ m) (t : ParseTree) :
    t ∈ g.treesAfter m s ↔ g.Derivation s t := by
  rw [Grammar.mem_treesAfter_iff]
  exact ⟨And.left, fun ht => ⟨ht, h.mono hnm s t ht⟩⟩

/-- **Finitely many trees**: every nonterminal has finitely many derivation trees just if there is a bound on their
levels. -/
theorem finite_derivations_iff : (∀ s ∈ g.names, {t | g.Derivation s t}.Finite) ↔ ∃ n, g.Shallow n := by
  constructor
  · intro hfinite
    exact ⟨g.names.length, shallow_of_finite hfinite⟩
  · rintro ⟨n, hshallow⟩ s -
    refine (List.finite_toSet (g.treesAfter n s)).subset fun t ht => ?_
    exact (hshallow.mem_treesAfter_iff le_rfl t).2 ht

theorem firsts_of_nodup {l : List Symbol} (h : l.Nodup) : firsts l = l := by
  induction l with
  | nil => rfl
  | cons s l ih =>
    obtain ⟨hs, hl⟩ := List.nodup_cons.1 h
    have hkept : ∀ a ∈ l, decide (a ≠ s) = true := fun a ha => decide_eq_true fun e => hs (e ▸ ha)
    rw [firsts, ih hl, List.filter_eq_self.2 hkept]

end Grammar

namespace Enumerator

variable {g : Grammar} {limit : Int} {n : Nat} {e : Enumerator}

theorem Reached.size_eq (hb : g.Built) (h : Reached g limit n e) : e.size = g.countAfter n := by
  have hlength : ∀ s ∈ g.names, ((e.derivations? s).getD []).length = (g.treesAfter n s).length := by
    intro s hs
    rw [h.derivations?_eq hb hs, Option.getD_some]
  rw [size, (h.table_eq hb).1, Grammar.firsts_of_nodup hb.names_nodup, List.map_congr_left hlength]
  rfl

/-- **What it means to be finished.** An enumeration is finished if and only if the rounds before its last have found all
derivation trees of all nonterminals. -/
theorem Reached.finished_iff (hb : g.Built) (h : Reached g limit n e) :
    e.finished = true ↔ ∃ k, n = k + 1 ∧ g.Shallow k := by
  induction h with
  | start => simp [Enumerator.start]
  | @grown n e before success ih =>
    have hsize : e.expand.enumerator.size = e.size ↔ g.Shallow n := by
      rw [(before.grown success).size_eq hb, before.size_eq hb, Grammar.countAfter_eq_iff_shallow]
    obtain ⟨-, -, -, -, -, hfinished⟩ := expand_of_grown success
    rw [hfinished, Bool.or_eq_true, decide_eq_true_eq, ih, hsize]
    constructor
    · rintro (⟨k, rfl, hshallow⟩ | hshallow)
      · exact ⟨k + 1, rfl, hshallow.mono (Nat.le_succ k)⟩
      · exact ⟨n, rfl, hshallow⟩
    · rintro ⟨k, hk, hshallow⟩
      obtain rfl : n = k := by omega
      exact .inr hshallow
  | failed _ failure ih =>
    obtain ⟨spent, -, hstuck, -⟩ := expand_of_not_grown failure
    rw [hstuck]
    exact ih

/-- a finished enumeration has found all derivation trees -/
theorem Reached.mem_treesAfter_iff_of_finished (hb : g.Built) (h : Reached g limit n e) (hdone : e.finished = true)
    (s : Symbol) (t : ParseTree) : t ∈ g.treesAfter n s ↔ g.Derivation s t := by
  obtain ⟨k, rfl, hshallow⟩ := (h.finished_iff hb).1 hdone
  exact hshallow.mem_treesAfter_iff (Nat.le_succ k) t

/-- there are finitely many trees where an enumeration is finished -/
theorem Reached.finite_of_finished (hb : g.Built) (h : Reached g limit n e) (hdone : e.finished = true) :
    ∀ s ∈ g.names, {t | g.Derivation s t}.Finite := by
  obtain ⟨k, -, hshallow⟩ := (h.finished_iff hb).1 hdone
  exact Grammar.finite_derivations_iff.2 ⟨k, hshallow⟩

/-- where there are finitely many trees, an enumeration with more rounds than there are nonterminals is finished -/
theorem Reached.finished_of_finite (hb : g.Built) (h : Reached g limit n e) (hdeep : g.names.length < n)
    (hfinite : ∀ s ∈ g.names, {t | g.Derivation s t}.Finite) : e.finished = true := by
  have hshallow : g.Shallow (n - 1) := (Grammar.shallow_of_finite hfinite).mono (by omega)
  exact (h.finished_iff hb).2 ⟨n - 1, by omega, hshallow⟩

/-- a run ends after the rounds asked for, unless it is finished before or a round fails -/
theorem Reached.expandTimes (h : Reached g limit n e) (k : Nat) :
    ∃ m, Reached g limit m (expandTimes k e).1 ∧
      ((expandTimes k e).1.finished = true ∨ (∃ l d, .sizeExceeded l d ∈ (expandTimes k e).2) ∨ m = n + k) := by
  induction k generalizing n e with
  | zero => exact ⟨n, h, .inr (.inr rfl)⟩
  | succ k ih =>
    by_cases hdone : e.finished = true
    · rw [expandTimes_of_finished hdone]
      exact ⟨n, h, .inl hdone⟩
    · cases hgrown : e.expand.grown with
      | false =>
        obtain ⟨-, -, -, hevent⟩ := expand_of_not_grown hgrown
        rw [expandTimes_of_not_grown hdone hgrown, hevent]
        exact ⟨n, h.failed hgrown, .inr (.inl ⟨e.limit, e.depth + 1, List.mem_singleton_self _⟩)⟩
      | true =>
        obtain ⟨m, hreached, hend⟩ := ih (h.grown hgrown)
        rw [expandTimes_of_grown hdone hgrown]
        refine ⟨m, hreached, ?_⟩
        rcases hend with hdone | ⟨l, d, hevent⟩ | hm
        · exact .inl hdone
        · exact .inr (.inl ⟨l, d, List.mem_cons_of_mem _ hevent⟩)
        · exact .inr (.inr (by omega))

end Enumerator

end GrammarLab
