/-
Where the bound on iterations bites.

An analysis gives up when its iterations take more steps than the bound allows. A step finds what has trees with one level
more, so it depends on the height of the lowest trees and on nothing else:
- `exists_analysis_iff_heights`: an analysis has an answer if and only if every nonterminal with a derivation tree has one
  that is no higher than the bound, and every one with a leafless tree a leafless one;
- `chain`: for every number of nonterminals a grammar whose start symbol has a single tree, as high as there is room for;
- `analysis_bound`: so grammars with fewer nonterminals than the bound always have an answer, and from the bound on there
  is one without for every number of nonterminals.
-/
import GrammarLab.Proofs.Grammar.Chains

namespace GrammarLab.Grammar

/-! ## The criterion -/

section

variable {g : Grammar} {kind : ParseTree → Prop}

/-- some level below the bound is the last that brings anything just if no lowest tree is higher than the bound -/
theorem exists_settled_lt_iff (hkind : Hereditary kind) {bound : Nat} (hpos : 0 < bound) :
    (∃ n < bound, g.Settled kind n) ↔
      ∀ s t, g.Derivation s t → kind t → ∃ u, g.Derivation s u ∧ kind u ∧ u.height ≤ bound := by
  obtain ⟨top, rfl⟩ := Nat.exists_eq_succ_of_ne_zero (Nat.pos_iff_ne_zero.1 hpos)
  constructor
  · rintro ⟨n, hn, hsettled⟩ s t ht hk
    have hs : s ∈ g.names := Realizable.mem_names ⟨t, ht⟩
    have hlow : g.Low kind n s := (hsettled.low_iff_exists hkind hs).2 ⟨t, ht, hk⟩
    exact (low_iff hs).1 (hlow.mono (Nat.le_of_lt_succ hn))
  · intro hall
    refine ⟨top, Nat.lt_succ_self top, settled_iff.2 fun s hs => ?_⟩
    refine ⟨fun hlow => ?_, fun hlow => hlow.mono (Nat.le_succ top)⟩
    obtain ⟨t, ht, hk, -⟩ := (low_iff hs).1 hlow
    exact (low_iff hs).2 (hall s t ht hk)

/-- **When the analysis has an answer**: if and only if every nonterminal with a derivation tree has one that is no higher
than the bound on iterations, and every nonterminal with a leafless derivation tree has such a tree without leaves. -/
theorem exists_analysis_iff_heights (hb : g.Built) :
    (∃ a, g.analyse = .ok a) ↔
      (∀ s t, g.Derivation s t → ∃ u, g.Derivation s u ∧ u.height ≤ fixpointBound) ∧
        ∀ s t, g.Derivation s t → t.leaves = [] → ∃ u, g.Derivation s u ∧ u.leaves = [] ∧ u.height ≤ fixpointBound := by
  rw [exists_analysis_iff hb, exists_settled_lt_iff hereditary_any (by decide),
    exists_settled_lt_iff hereditary_leafless (by decide)]
  simp only [true_and, true_implies]

end

/-! ## Chains -/

/-- a symbol for every number -/
def link (i : Nat) : Symbol := String.ofList (List.replicate (i + 1) 'A')

theorem link_inj {i j : Nat} : link i = link j ↔ i = j := by
  refine ⟨fun h => ?_, congrArg link⟩
  have hlength := congrArg (fun s => s.toList.length) h
  simpa [link] using hlength

theorem link_ne_topName (i : Nat) : link i ≠ topName := by
  intro h
  have hhead := congrArg (fun s => s.toList.head?) h
  simp [link, topName, List.replicate_succ] at hhead

/-- the grammar with `n` nonterminals, each of which is replaced by the next; what the last is replaced by is a terminal -/
def chain (n : Nat) : Grammar := ⟨(List.range n).map fun i => ⟨link i, [[link (i + 1)]]⟩⟩

theorem names_chain (n : Nat) : (chain n).names = (List.range n).map link := by
  simp [chain, names, Function.comp_def]

variable {n i : Nat}

theorem link_mem_names_chain : link i ∈ (chain n).names ↔ i < n := by
  simp only [names_chain, List.mem_map, List.mem_range, link_inj, exists_eq_right]

theorem built_chain (n : Nat) : (chain n).Built := by
  refine WellFormed.built ⟨?_, ?_, ?_⟩
  · rw [names_chain]
    exact List.nodup_range.map fun _ _ h => link_inj.1 h
  · rw [names_chain]
    intro htop
    obtain ⟨i, -, htop⟩ := List.mem_map.1 htop
    exact link_ne_topName i htop
  · intro r hr
    obtain ⟨i, -, rfl⟩ := List.mem_map.1 hr
    exact List.cons_ne_nil _ _

theorem alternatives_chain (hi : i < n) : (chain n).alternatives (link i) = [[link (i + 1)]] :=
  (built_chain n).alternatives_of_mem (List.mem_map.2 ⟨i, List.mem_range.2 hi, rfl⟩)

theorem start?_chain (hn : 0 < n) : (chain n).start? = some (link 0) := by
  obtain ⟨m, rfl⟩ := Nat.exists_eq_succ_of_ne_zero (Nat.pos_iff_ne_zero.1 hn)
  rw [start?, names_chain, List.range_succ_eq_map]
  rfl

/-- every link is reached from the first -/
theorem leads_chain (hi : i < n) : (chain n).Leads (link 0) (link i) := by
  induction i with
  | zero => exact .refl
  | succ i ih =>
    have hbefore : i < n := by omega
    refine (ih hbefore).tail ⟨link_mem_names_chain.2 hi, [link (i + 1)], ?_, List.mem_singleton_self _⟩
    rw [alternatives_chain hbefore]
    exact List.mem_singleton_self _

/-- the links from `i` on make a tree, and the lower the number the higher the tree -/
theorem exists_valid_chain (k : Nat) (hi : i + k = n) : ∃ t, t.symbol = link i ∧ (chain n).Valid t := by
  induction k generalizing i with
  | zero =>
    refine ⟨.leaf (link i), rfl, valid_leaf_iff.2 fun h => ?_⟩
    have := link_mem_names_chain.1 h
    omega
  | succ k ih =>
    obtain ⟨t, hsymbol, hvalid⟩ := ih (i := i + 1) (by omega)
    refine ⟨.node (link i) [t], rfl, .node ?_ (by simpa using hvalid)⟩
    rw [alternatives_chain (by omega), List.map_singleton, hsymbol]
    exact List.mem_singleton_self _

theorem realizable_chain (hi : i < n) : (chain n).Realizable (link i) := by
  obtain ⟨t, hsymbol, hvalid⟩ := exists_valid_chain (n - i) (Nat.add_sub_of_le (Nat.le_of_lt hi))
  exact ⟨t, hsymbol ▸ hvalid.derivation (hsymbol.symm ▸ link_mem_names_chain.2 hi)⟩

/-- a tree of a link goes through all links after it -/
theorem height_chain {t : ParseTree} (ht : (chain n).Valid t) (hsymbol : t.symbol = link i) (hi : i ≤ n) :
    t.height + i = n + 1 := by
  induction ht generalizing i with
  | @leaf s terminal =>
    obtain rfl : s = link i := hsymbol
    have hlast : ¬ i < n := fun hlt => (isTerminal_iff _ _).1 terminal (link_mem_names_chain.2 hlt)
    rw [ParseTree.height]
    omega
  | @node s cs rule below ih =>
    obtain rfl : s = link i := hsymbol
    have hlt : i < n := link_mem_names_chain.1 (mem_names_of_mem_alternatives rule)
    rw [alternatives_chain hlt, List.mem_singleton] at rule
    obtain ⟨c, rfl, hc⟩ := List.map_eq_singleton_iff.1 rule
    have hheight := ih c (List.mem_singleton_self c) hc hlt
    rw [ParseTree.height, ParseTree.maxHeight]
    omega

/-- a chain that is as long as the bound has no analysis -/
theorem analyse_chain (hn : fixpointBound ≤ n) : (chain n).analyse = .error .tooManySteps := by
  cases hanalysis : (chain n).analyse with
  | error e => cases e; rfl
  | ok a =>
    have hpos : 0 < n := Nat.lt_of_lt_of_le (by decide) hn
    obtain ⟨t, ht⟩ := realizable_chain hpos
    obtain ⟨u, hu, hlow⟩ := ((exists_analysis_iff_heights (built_chain n)).1 ⟨a, hanalysis⟩).1 _ t ht
    have := height_chain hu.valid hu.symbol_eq (Nat.zero_le n)
    omega

/-- **Where the bound on iterations bites.** A grammar with at most 999 nonterminals always has an analysis. For every
number from 1000 on there is a grammar with so many nonterminals, all of them reachable and realizable, whose analysis
gives up. -/
theorem analysis_bound :
    (∀ g : Grammar, g.Built → g.names.length ≤ 999 → ∃ a, g.analyse = .ok a) ∧
      ∀ n, 1000 ≤ n → ∃ (g : Grammar) (s : Symbol), g.Built ∧ g.names.length = n ∧ g.start? = some s ∧
        (∀ b ∈ g.names, g.Leads s b ∧ g.Realizable b) ∧ g.analyse = .error .tooManySteps := by
  refine ⟨fun g hb hle => exists_analysis hb (Nat.lt_succ_of_le hle), fun n hn => ?_⟩
  refine ⟨chain n, link 0, built_chain n, by simp [names_chain], start?_chain (by omega), fun b hname => ?_,
    analyse_chain hn⟩
  rw [names_chain] at hname
  obtain ⟨i, hi, rfl⟩ := List.mem_map.1 hname
  exact ⟨leads_chain (List.mem_range.1 hi), realizable_chain (List.mem_range.1 hi)⟩

/-- the chain of 999 links still has an analysis, and with 1000 nonterminals there is none -/
theorem analysis_bound_chain :
    (chain 999).Built ∧ (chain 999).names.length ≤ 999 ∧ (∃ a, (chain 999).analyse = .ok a) ∧
      1000 ≤ 1000 ∧ ∃ (g : Grammar) (s : Symbol), g.Built ∧ g.names.length = 1000 ∧ g.start? = some s ∧
        (∀ b ∈ g.names, g.Leads s b ∧ g.Realizable b) ∧ g.analyse = .error .tooManySteps := by
  have hlength : (chain 999).names.length ≤ 999 := by simp [names_chain]
  exact ⟨built_chain 999, hlength, analysis_bound.1 (chain 999) (built_chain 999) hlength, Nat.le_refl 1000,
    analysis_bound.2 1000 (Nat.le_refl 1000)⟩

end GrammarLab.Grammar
