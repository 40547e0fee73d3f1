/-
What one round of an enumeration builds, and what it costs.

A round succeeds just if the limit covers the sizes of all its trees on top of what has been spent (`grown_iff`): every
part of a round pays for its own trees (`Pays`), and parts one after another pay for the trees of all (`Pays.foldlM`). A
round that succeeds replaces the trees of every nonterminal by all trees over its alternatives whose children come from
the round before (`expand_of_grown`); one that fails leaves them as they are. `Grammar.treesAfter` says the same without
limits and tables: the trees of a symbol after `n` rounds. `Reached` are the enumerations that rounds lead to, whatever
fails on the way, and `Reached.table_eq` says that their trees are `treesAfter` of the number of rounds that succeeded.
-/
import GrammarLab.Derivation.Enumerator
import GrammarLab.Proofs.Tree.Derivation
import Mathlib.Algebra.GroupWithZero.Nat

namespace GrammarLab

/-- every way to choose one tree from each list, the last choice changing fastest -/
def selections : List (List ParseTree) → List (List ParseTree)
  | [] => [[]]
  | l :: ls => l.flatMap fun t => (selections ls).map (t :: ·)

theorem selections_eq_nil {ls : List (List ParseTree)} (h : [] ∈ ls) : selections ls = [] := by
  induction ls with
  | nil => exact absurd h List.not_mem_nil
  | cons l ls ih =>
    rcases List.mem_cons.1 h with rfl | h
    · rfl
    · simp [selections, ih h]

namespace Grammar

/-- the trees that may stand for a symbol, where those of the nonterminals are given -/
def choicesFrom (g : Grammar) (trees : Symbol → List ParseTree) (s : Symbol) : List ParseTree :=
  if g.isTerminal s then [.leaf s] else trees s

/-- the trees over the alternatives of a symbol, where those below are given -/
def treesOver (g : Grammar) (trees : Symbol → List ParseTree) (s : Symbol) : List ParseTree :=
  (g.alternatives s).flatMap fun rhs => (selections (rhs.map (g.choicesFrom trees))).map (.node s)

/-- the trees of a symbol after some rounds, if no limit applies -/
def treesAfter (g : Grammar) : Nat → Symbol → List ParseTree
  | 0, _ => []
  | n + 1, s => g.treesOver (g.treesAfter n) s

end Grammar

namespace Enumerator

/-! ## The order of work in a round -/

theorem foldChoices_eq {σ : Type} (step : σ → List ParseTree → Except σ σ) (ls : List (List ParseTree)) :
    ∀ chosen s, foldChoices step ls chosen s =
      (selections ls).foldlM (fun s cs => step s (chosen.reverse ++ cs)) s := by
  induction ls with
  | nil => intro chosen s; simp [foldChoices, selections]
  | cons l ls ih =>
    intro chosen s
    rw [foldChoices, selections]
    induction l generalizing s with
    | nil => rfl
    | cons t l ihl =>
      rw [List.foldlM_cons, List.flatMap_cons, List.foldlM_append, List.foldlM_map, ih]
      simp only [ihl, List.reverse_cons, List.append_assoc, List.singleton_append]

/-- what has been built, with more trees in the order in which they were built -/
def Growth.add (growth : Growth) (trees : List ParseTree) : Growth :=
  ⟨growth.spent + (trees.map ParseTree.size).sum, trees.reverse ++ growth.trees⟩

@[simp] theorem Growth.add_nil (growth : Growth) : growth.add [] = growth := rfl

@[simp] theorem Growth.add_add (growth : Growth) (ts us : List ParseTree) :
    (growth.add ts).add us = growth.add (ts ++ us) := by
  simp [Growth.add, Nat.add_assoc]

/-! ## What a step of a round costs -/

/-- there is no tree to pay for, or the limit covers the sizes of all of them on top of what has been spent -/
def Fits (limit : Int) (spent : Nat) (trees : List ParseTree) : Prop :=
  trees = [] ∨ (spent + (trees.map ParseTree.size).sum : Nat) ≤ limit

theorem fits_append {limit : Int} {spent : Nat} {ts us : List ParseTree} :
    Fits limit spent (ts ++ us) ↔ Fits limit spent ts ∧ Fits limit (spent + (ts.map ParseTree.size).sum) us := by
  unfold Fits
  cases us with
  | nil => simp
  | cons u us =>
    simp only [List.append_eq_nil_iff, List.cons_ne_nil, and_false, false_or, List.map_append, List.sum_append]
    constructor
    · intro h
      exact ⟨Or.inr (by omega), by omega⟩
    · rintro ⟨-, h⟩
      omega

/-- a step that pays for trees: it goes on to `next` if they fit, and otherwise fails with more spent than the limit -/
structure Pays {σ ε : Type} (limit : Int) (spent : σ → Nat) (lost : ε → Nat) (step : σ → Except ε σ) (next : σ → σ)
    (trees : List ParseTree) : Prop where
  cost : ∀ s, spent (next s) = spent s + (trees.map ParseTree.size).sum
  fits : ∀ s, Fits limit (spent s) trees → step s = .ok (next s)
  fails : ∀ s, ¬ Fits limit (spent s) trees → ∃ e, step s = .error e ∧ limit < lost e

/-- steps that each pay for the trees of their item pay, one after another, for the trees of all items -/
theorem Pays.foldlM {σ ε α : Type} {limit : Int} {spent : σ → Nat} {lost : ε → Nat} {step : σ → α → Except ε σ}
    {next : σ → α → σ} {trees : α → List ParseTree}
    (h : ∀ a, Pays limit spent lost (fun s => step s a) (fun s => next s a) (trees a)) (l : List α) :
    Pays limit spent lost (fun s => l.foldlM step s) (fun s => l.foldl next s) (l.flatMap trees) := by
  induction l with
  | nil =>
    refine ⟨fun s => by simp, fun s _ => rfl, fun s hfits => ?_⟩
    exact absurd (Or.inl rfl) hfits
  | cons a l ih =>
    refine ⟨fun s => ?_, fun s hfits => ?_, fun s hfits => ?_⟩
    · rw [List.foldl_cons, ih.cost, (h a).cost, List.flatMap_cons, List.map_append, List.sum_append, Nat.add_assoc]
    · rw [List.flatMap_cons, fits_append, ← (h a).cost] at hfits
      rw [List.foldlM_cons, (h a).fits s hfits.1]
      exact ih.fits _ hfits.2
    · rw [List.flatMap_cons, fits_append, ← (h a).cost, not_and_or] at hfits
      rw [List.foldlM_cons]
      by_cases hfirst : Fits limit (spent s) (trees a)
      · rw [(h a).fits s hfirst]
        exact ih.fails _ (hfits.resolve_left (not_not.2 hfirst))
      · obtain ⟨e, he, hlost⟩ := (h a).fails s hfirst
        exact ⟨e, by rw [he]; rfl, hlost⟩

/-- the same step, said otherwise -/
theorem Pays.congr {σ ε : Type} {limit : Int} {spent : σ → Nat} {lost : ε → Nat} {step step' : σ → Except ε σ}
    {next next' : σ → σ} {trees trees' : List ParseTree} (h : Pays limit spent lost step next trees)
    (hstep : ∀ s, step' s = step s) (hnext : ∀ s, next' s = next s) (htrees : trees' = trees) :
    Pays limit spent lost step' next' trees' := by
  obtain rfl : step' = step := funext hstep
  obtain rfl : next' = next := funext hnext
  rw [htrees]
  exact h

variable {e : Enumerator} {limit : Int} {name : Symbol}

theorem foldl_add {α : Type} (trees : α → List ParseTree) (l : List α) :
    ∀ growth : Growth, l.foldl (fun growth a => growth.add (trees a)) growth = growth.add (l.flatMap trees) := by
  induction l with
  | nil => intro growth; exact (Growth.add_nil growth).symm
  | cons a l ih => intro growth; rw [List.foldl_cons, ih, Growth.add_add, List.flatMap_cons]

/-- what a growth has spent is what a step of it pays from, and what it loses when it fails -/
abbrev Builds (limit : Int) (step : Growth → Except Growth Growth) (trees : List ParseTree) : Prop :=
  Pays limit Growth.spent Growth.spent step (·.add trees) trees

theorem builds_addTree (limit : Int) (name : Symbol) (cs : List ParseTree) :
    Builds limit (fun growth => addTree limit name growth cs) [.node name cs] := by
  have hfits : ∀ growth : Growth, Fits limit growth.spent [.node name cs] ↔
      ¬ limit < (growth.spent + (ParseTree.node name cs).size : Nat) := fun growth => by simp [Fits]
  refine ⟨fun growth => rfl, fun growth h => ?_, fun growth h => ?_⟩
  · simp only [addTree, if_neg ((hfits growth).1 h)]
    rfl
  · have hover := not_not.1 (mt (hfits growth).2 h)
    refine ⟨growth.add [.node name cs], ?_, by simpa [Growth.add] using hover⟩
    simp only [addTree, if_pos hover]
    rfl

theorem builds_addAlternative (e : Enumerator) (name : Symbol) (rhs : List Symbol) :
    Builds e.limit (fun growth => e.addAlternative name growth rhs)
      ((selections (rhs.map e.choices)).map (.node name)) := by
  refine (Pays.foldlM (fun cs => builds_addTree e.limit name cs) (selections (rhs.map e.choices))).congr
    (fun growth => ?_) (fun growth => ?_) (List.map_eq_flatMap ..)
  · simp only [addAlternative]
    split_ifs with hempty
    · obtain ⟨l, hl, hnil⟩ := List.any_eq_true.1 hempty
      rw [List.isEmpty_iff.1 hnil] at hl
      rw [selections_eq_nil hl]
      rfl
    · exact foldChoices_eq ..
  · rw [foldl_add, List.map_eq_flatMap]

/-- the trees that a round builds of one rule -/
def built (e : Enumerator) (r : Rule) : List ParseTree :=
  r.alternatives.flatMap fun rhs => (selections (rhs.map e.choices)).map (.node r.name)

/-- the sum of sizes and the rows so far, with those of one more rule -/
def addRow (e : Enumerator) (round : Nat × List (Symbol × List ParseTree)) (r : Rule) :
    Nat × List (Symbol × List ParseTree) :=
  (round.1 + ((e.built r).map ParseTree.size).sum, round.2 ++ [(r.name, e.built r)])

theorem pays_addRule (e : Enumerator) (r : Rule) :
    Pays e.limit Prod.fst id (fun round => e.addRule round r) (fun round => e.addRow round r) (e.built r) := by
  have hbuilds : Builds e.limit (fun growth => r.alternatives.foldlM (e.addAlternative r.name) growth) (e.built r) :=
    (Pays.foldlM (builds_addAlternative e r.name) r.alternatives).congr (fun _ => rfl) (fun _ => (foldl_add ..).symm) rfl
  refine ⟨fun round => rfl, fun round h => ?_, fun round h => ?_⟩
  · have hok : r.alternatives.foldlM (e.addAlternative r.name) ⟨round.1, []⟩ = .ok _ := hbuilds.fits ⟨round.1, []⟩ h
    simp [addRule, hok, addRow, Growth.add]
  · obtain ⟨failed, herror, hlost⟩ := hbuilds.fails ⟨round.1, []⟩ h
    have herror' : r.alternatives.foldlM (e.addAlternative r.name) ⟨round.1, []⟩ = .error failed := herror
    exact ⟨failed.spent, by simp only [addRule, herror'], hlost⟩

theorem foldl_addRow (rules : List Rule) :
    ∀ round, rules.foldl e.addRow round =
      (round.1 + ((rules.flatMap e.built).map ParseTree.size).sum, round.2 ++ rules.map fun r => (r.name, e.built r)) := by
  induction rules with
  | nil => intro round; simp
  | cons r rules ih => intro round; rw [List.foldl_cons, ih]; simp [addRow, Nat.add_assoc]

/-! ## What a round does -/

/-- the trees that a round builds, of all rules -/
def harvest (e : Enumerator) : List ParseTree := e.grammar.rules.flatMap e.built

/-- **A round succeeds just if its trees fit**: no tree on the way is what stops it unless all of them together would. -/
theorem grown_iff : e.expand.grown = true ↔ Fits e.limit e.spent e.harvest := by
  have hpays := Pays.foldlM (pays_addRule e) e.grammar.rules
  unfold expand
  by_cases hfits : Fits e.limit e.spent e.harvest
  · rw [hpays.fits (e.spent, []) hfits]
    simp [hfits]
  · obtain ⟨spent, herror, -⟩ := hpays.fails (e.spent, []) hfits
    rw [herror]
    simp [hfits]

/-- a round that succeeds: all trees of every rule over the trees of the round before, and the sum of their sizes -/
theorem expand_of_grown (h : e.expand.grown = true) :
    e.expand.enumerator.grammar = e.grammar ∧ e.expand.enumerator.limit = e.limit ∧
      e.expand.enumerator.depth = e.depth + 1 ∧
      e.expand.enumerator.table = (e.grammar.rules.map fun r => (r.name, e.built r)) ∧
      e.expand.enumerator.spent = e.spent + (e.harvest.map ParseTree.size).sum ∧
      e.expand.enumerator.finished = (e.finished || decide (e.expand.enumerator.size = e.size)) := by
  have hok := (Pays.foldlM (pays_addRule e) e.grammar.rules).fits (e.spent, []) (grown_iff.1 h)
  rw [foldl_addRow] at hok
  unfold expand
  rw [hok]
  exact ⟨rfl, rfl, rfl, List.nil_append _, rfl, rfl⟩

/-- a round that fails: nothing changes but the sum of sizes, which has passed the limit -/
theorem expand_of_not_grown (h : e.expand.grown = false) :
    ∃ spent : Nat, e.limit < spent ∧ e.expand.enumerator = { e with spent } ∧
      e.expand.event = .sizeExceeded e.limit (e.depth + 1) := by
  have hfits : ¬ Fits e.limit e.spent e.harvest := fun hfits => by simp [grown_iff.2 hfits] at h
  obtain ⟨spent, herror, hlost⟩ := (Pays.foldlM (pays_addRule e) e.grammar.rules).fails (e.spent, []) hfits
  refine ⟨spent, hlost, ?_, ?_⟩ <;> simp only [expand, herror]

/-! ## Many rounds -/

theorem expandTimes_of_finished {k : Nat} (h : e.finished = true) : expandTimes k e = (e, []) := by
  cases k with
  | zero => rfl
  | succ k => rw [expandTimes, if_pos h]

theorem expandTimes_of_grown {k : Nat} (hdone : ¬ e.finished = true) (h : e.expand.grown = true) :
    expandTimes (k + 1) e =
      ((expandTimes k e.expand.enumerator).1, e.expand.event :: (expandTimes k e.expand.enumerator).2) := by
  rw [expandTimes, if_neg hdone]
  simp only [h, if_true]

theorem expandTimes_of_not_grown {k : Nat} (hdone : ¬ e.finished = true) (h : e.expand.grown = false) :
    expandTimes (k + 1) e = (e.expand.enumerator, [e.expand.event]) := by
  rw [expandTimes, if_neg hdone]
  simp only [h, Bool.false_eq_true, if_false]

/-- the enumerations with `n` rounds that succeeded, whatever rounds failed between and after them -/
inductive Reached (g : Grammar) (limit : Int) : Nat → Enumerator → Prop where
  | start : Reached g limit 0 (.start g limit)
  | grown {n : Nat} {e : Enumerator} (before : Reached g limit n e) (success : e.expand.grown = true) :
      Reached g limit (n + 1) e.expand.enumerator
  | failed {n : Nat} {e : Enumerator} (before : Reached g limit n e) (failure : e.expand.grown = false) :
      Reached g limit n e.expand.enumerator

theorem lookup_map_names {α : Type} (names : List Symbol) (f : Symbol → α) (s : Symbol) :
    (names.map fun a => (a, f a)).lookup s = if s ∈ names then some (f s) else none := by
  induction names with
  | nil => rfl
  | cons a names ih =>
    rw [List.map_cons, List.lookup_cons, ih]
    by_cases h : s = a
    · simp [h]
    · have hne : (s == a) = false := beq_false_of_ne h
      simp [h, hne]

variable {g : Grammar} {trees : Symbol → List ParseTree}

theorem derivations?_of_table (ht : e.table = g.names.map fun s => (s, trees s)) (s : Symbol) :
    e.derivations? s = if s ∈ g.names then some (trees s) else none := by
  rw [derivations?, ht, lookup_map_names]

theorem choices_of_table (ht : e.table = g.names.map fun s => (s, trees s)) (s : Symbol) :
    e.choices s = g.choicesFrom trees s := by
  rw [choices, derivations?_of_table ht, Grammar.choicesFrom]
  by_cases hs : s ∈ g.names
  · rw [if_pos hs, if_neg (fun h => (Grammar.isTerminal_iff g s).1 h hs)]
  · rw [if_neg hs, if_pos ((Grammar.isTerminal_iff g s).2 hs)]

theorem built_of_table (hb : g.Built) (ht : e.table = g.names.map fun s => (s, trees s)) {r : Rule}
    (hr : r ∈ g.rules) : e.built r = g.treesOver trees r.name := by
  rw [built, Grammar.treesOver, hb.alternatives_of_mem hr, funext (choices_of_table ht)]

/-- **The trees of an enumeration are those of its rounds**: they depend on the number of rounds that succeeded, and not
on the limit or on the rounds that failed. -/
theorem Reached.table_eq {n : Nat} (hb : g.Built) (h : Reached g limit n e) :
    e.grammar = g ∧ e.table = g.names.map fun s => (s, g.treesAfter n s) := by
  induction h with
  | start => exact ⟨rfl, rfl⟩
  | @grown n e _ success ih =>
    obtain ⟨hg, -, -, ht, -⟩ := expand_of_grown success
    rw [ih.1] at hg ht
    refine ⟨hg, ?_⟩
    rw [ht, Grammar.names, List.map_map]
    exact List.map_congr_left fun r hr => by rw [built_of_table hb ih.2 hr]; rfl
  | failed _ failure ih =>
    obtain ⟨spent, -, hstuck, -⟩ := expand_of_not_grown failure
    rw [hstuck]
    exact ih

/-- the trees of a nonterminal, asked for after some rounds -/
theorem Reached.derivations?_eq {n : Nat} (hb : g.Built) (h : Reached g limit n e) {s : Symbol} (hs : s ∈ g.names) :
    e.derivations? s = some (g.treesAfter n s) := by
  rw [derivations?_of_table (h.table_eq hb).2, if_pos hs]

/-- the limit stays, and the depth counts the rounds that succeeded -/
theorem Reached.limit_depth_eq {n : Nat} (h : Reached g limit n e) : e.limit = limit ∧ e.depth = n := by
  induction h with
  | start => exact ⟨rfl, rfl⟩
  | grown _ success ih =>
    obtain ⟨-, hlimit, hdepth, -⟩ := expand_of_grown success
    rw [hlimit, hdepth, ih.1, ih.2]
    exact ⟨rfl, rfl⟩
  | failed _ failure ih =>
    obtain ⟨spent, -, hstuck, -⟩ := expand_of_not_grown failure
    rw [hstuck]
    exact ih

theorem Reached.limit_eq {n : Nat} (h : Reached g limit n e) : e.limit = limit := h.limit_depth_eq.1

theorem Reached.depth_eq {n : Nat} (h : Reached g limit n e) : e.depth = n := h.limit_depth_eq.2

end Enumerator

end GrammarLab
