/-
What a parse returns.

- `parse_trees_sound`: every tree is a derivation tree of the start symbol that spells the tokens, whatever the limit;
- `parse_trees_complete`: a parse that says it is complete has all of them, each once. So it never says so of tokens that
  have infinitely many trees, and without a tree it means that there is none.
A tree is returned if and only if the item of the top name over it stands in the first state set (`parse_eq_ok`); the
rest is what is known of the items of a chart.
-/
import GrammarLab.Proofs.Chart.Sets
import Mathlib.Data.Set.Finite.List

namespace GrammarLab.Chart

/-- the completed item of the top name over a tree of the start symbol -/
def topItem (start : Symbol) (tokens : List Symbol) (t : ParseTree) : Item :=
  ⟨topName, [], [start], [t], tokens.length⟩

theorem topItem_injective (start : Symbol) (tokens : List Symbol) : (topItem start tokens).Injective := by
  intro t u h
  simpa [topItem] using h

/-- completed items of the top name over nodes have their trees, in order -/
theorem mapM_completeTop {start : Symbol} {tokens : List Symbol} {ts : List ParseTree}
    (h : ∀ t ∈ ts, ∃ s cs, t = .node s cs) : (ts.map (topItem start tokens)).mapM Item.completeTop = .ok ts := by
  induction ts with
  | nil => rfl
  | cons t ts ih =>
    obtain ⟨⟨s, cs, rfl⟩, hrest⟩ := List.forall_mem_cons.1 h
    rw [List.map_cons, List.mapM_cons, ih hrest]
    rfl

/-- a list of items of one form is the list of those forms -/
theorem exists_map_topItem {start : Symbol} {tokens : List Symbol} {items : List Item}
    (h : ∀ i ∈ items, ∃ cs, i = topItem start tokens (.node start cs)) :
    ∃ ts : List ParseTree, items = ts.map (topItem start tokens) ∧ ∀ t ∈ ts, ∃ s cs, t = .node s cs := by
  induction items with
  | nil => exact ⟨[], rfl, by simp⟩
  | cons i items ih =>
    obtain ⟨⟨cs, rfl⟩, hrest⟩ := List.forall_mem_cons.1 h
    obtain ⟨ts, rfl, hts⟩ := ih hrest
    exact ⟨.node start cs :: ts, rfl, List.forall_mem_cons.2 ⟨⟨start, cs, rfl⟩, hts⟩⟩

section

variable {g : Grammar} {s : Symbol}

/-- what a parse returns: the trees of the completed items of the top name, and what the chart says of itself -/
theorem parse_eq_ok_iff {limit : Int} {tokens : List Symbol} {p : Parse} :
    parse g tokens limit = .ok p ↔ ∃ s ts, g.start? = some s ∧ (chartFrom g s limit 0 tokens).trees = .ok ts ∧
      p = ⟨(chartFrom g s limit 0 tokens).complete, ts, (chartFrom g s limit 0 tokens).events⟩ := by
  cases hs : g.start? with
  | none => simp [parse, Grammar.start, hs, Except.mapError, bind, Except.bind]
  | some s =>
    cases hts : (chartFrom g s limit 0 tokens).trees with
    | error e => simp [parse, Grammar.start_eq_ok hs, hts, Except.mapError, bind, Except.bind]
    | ok ts => simp [parse, Grammar.start_eq_ok hs, hts, Except.mapError, bind, Except.bind, pure, Except.pure, eq_comm]

/-- a parse says of itself what its chart says -/
theorem complete_eq_of_parse {limit : Int} {tokens : List Symbol} {p : Parse} (hs : g.start? = some s)
    (hp : parse g tokens limit = .ok p) : p.complete = (chartFrom g s limit 0 tokens).complete := by
  obtain ⟨s', ts, hs', -, rfl⟩ := parse_eq_ok_iff.1 hp
  obtain rfl : s = s' := Option.some.inj (hs.symm.trans hs')
  rfl

/-- every parse with a built grammar that is not empty has an answer: the trees of the completed items of the top name in
the first state set, no tree twice -/
theorem parse_eq_ok (hb : g.Built) (hs : g.start? = some s) (tokens : List Symbol) (limit : Int) :
    ∃ p, parse g tokens limit = .ok p ∧ p.complete = (chartFrom g s limit 0 tokens).complete ∧ p.trees.Nodup ∧
      ∀ t, t ∈ p.trees ↔ (chartFrom g s limit 0 tokens).Has 0 (topItem s tokens t) := by
  set chart := chartFrom g s limit 0 tokens with hchart
  obtain ⟨first, rest, hsets⟩ : ∃ first rest, chart.sets = first :: rest := by
    rw [hchart]
    cases tokens <;> exact ⟨_, _, sets_extend⟩
  have hfirst : ∀ i, chart.Has 0 i ↔ i ∈ first.items := fun i => by simp [Has, hsets]
  have htop : ∀ i ∈ first.completed.filter (·.name = topName), ∃ cs, i = topItem s tokens (.node s cs) := by
    intro i hi
    obtain ⟨hi, hname⟩ := List.mem_filter.1 hi
    obtain ⟨hi, hdone⟩ := List.mem_filter.1 hi
    have harises := arises_of_has tokens 0 (Nat.zero_le _) rfl 0 i ((hfirst i).2 hi)
    exact harises.eq_of_name_eq_top hb (Grammar.mem_names_of_start? hs) (by simpa using hname) hdone
  obtain ⟨ts, hts, hnodes⟩ := exists_map_topItem htop
  have htrees : chart.trees = .ok ts := by rw [trees, hsets]; simp only [hts]; exact mapM_completeTop hnodes
  refine ⟨⟨chart.complete, ts, chart.events⟩, parse_eq_ok_iff.2 ⟨s, ts, hs, htrees, rfl⟩, rfl, ?_, fun t => ?_⟩
  · have hnodup : first.items.Nodup := @nodup_first g s limit 0 tokens first
      (by rw [← hchart, hsets]; rfl)
    exact List.Nodup.of_map _ (hts ▸ (hnodup.filter _).filter _)
  · have hmem : topItem s tokens t ∈ first.completed.filter (·.name = topName) ↔ topItem s tokens t ∈ first.items := by
      simp [StateSet.completed, List.mem_filter, topItem, Item.isCompleted]
    rw [hfirst, ← hmem, hts, List.mem_map_of_injective (topItem_injective s tokens)]

theorem top_arises {start : Symbol} {tokens : List Symbol} (t : ParseTree) (ht : g.Derivation start t)
    (hleaves : t.leaves = tokens) : Arises g start tokens 0 (topItem start tokens t) := by
  refine Arises.over_valid ht.valid 0 tokens.length (Nat.zero_le _) (Nat.le_refl _) ?_ _ _ .top ?_
  · simp [hleaves]
  · refine Item.over?_eq_some_iff.2 ⟨[], ?_, ?_⟩
    · simp [Item.predict, ht.symbol_eq]
    · simp [Item.predict, topItem, ht.symbol_eq]

theorem derivation_of_top_arises {start : Symbol} {tokens : List Symbol} {t : ParseTree} (hb : g.Built)
    (htop : g.TopFree) (hs : start ∈ g.names) (h : Arises g start tokens 0 (topItem start tokens t)) :
    g.Derivation start t ∧ t.leaves = tokens := by
  have hsound := h.sound hb htop hs
  have hvalid : g.Valid t := hsound.valid t (List.mem_singleton_self t)
  have hsymbol : t.symbol = start := by simpa [topItem] using h.shape.symbols
  refine ⟨hsymbol ▸ hvalid.derivation (hsymbol ▸ hs), ?_⟩
  simpa [topItem] using hsound.spelled.symm

/-- **Soundness of the parser.** With any limit, complete or not, a parse returns derivation trees of the start symbol
whose leaves are the tokens, and nothing else. -/
theorem parse_trees_sound (hb : g.Built) (htop : g.TopFree) (hs : g.start? = some s) (tokens : List Symbol)
    (limit : Int) :
    ∃ p, parse g tokens limit = .ok p ∧ ∀ t ∈ p.trees, g.Derivation s t ∧ t.leaves = tokens := by
  obtain ⟨p, hp, -, -, hmem⟩ := parse_eq_ok hb hs tokens limit
  refine ⟨p, hp, fun t ht => ?_⟩
  have harises := arises_of_has tokens 0 (Nat.zero_le _) rfl 0 _ ((hmem t).1 ht)
  exact derivation_of_top_arises hb htop (Grammar.mem_names_of_start? hs) harises

/-- a grammar with a cycle: every `a` has infinitely many trees -/
def cyclicSample : Grammar := ⟨[⟨"S", [["S"], ["a"]]⟩]⟩

/-- the trees of a parse that gave up a state set -/
theorem parse_trees_sound_cyclic :
    cyclicSample.Built ∧ cyclicSample.TopFree ∧ cyclicSample.start? = some "S" ∧
      ∃ p, parse cyclicSample ["a"] 3 = .ok p ∧ p.complete = false ∧
        ∀ t ∈ p.trees, cyclicSample.Derivation "S" t ∧ t.leaves = ["a"] := by
  have hb : cyclicSample.Built := ⟨[("S", ["S"]), ("S", ["a"])], by rfl⟩
  have hs : cyclicSample.start? = some "S" := rfl
  obtain ⟨p, hp, htrees⟩ := parse_trees_sound hb (by decide) hs ["a"] 3
  have hcut : p.complete = false := by
    rw [complete_eq_of_parse hs hp]
    open Evaluation in simp [cyclicSample]
  exact ⟨hb, by decide, hs, p, hp, hcut, htrees⟩

/-- **Completeness of the parser.** A parse that says that it is complete returns every derivation tree of the start
symbol whose leaves are the tokens, each once, and nothing else. If it returns none then the start symbol does not derive
the tokens, and where there are infinitely many trees no limit makes a parse complete. -/
theorem parse_trees_complete (hb : g.Built) (htop : g.TopFree) (hs : g.start? = some s) (tokens : List Symbol)
    (limit : Int) :
    ∃ p, parse g tokens limit = .ok p ∧
      (p.complete = true → p.trees.Nodup ∧ (∀ t, t ∈ p.trees ↔ g.Derivation s t ∧ t.leaves = tokens) ∧
        (p.trees = [] → ¬ ∃ t, g.Derivation s t ∧ t.leaves = tokens)) ∧
      ({t | g.Derivation s t ∧ t.leaves = tokens}.Infinite → p.complete = false) := by
  obtain ⟨p, hp, hcomplete, hnodup, hmem⟩ := parse_eq_ok hb hs tokens limit
  have hstart := Grammar.mem_names_of_start? hs
  have hall : p.complete = true → ∀ t, t ∈ p.trees ↔ g.Derivation s t ∧ t.leaves = tokens := by
    intro hdone t
    rw [hmem]
    constructor
    · intro hhas
      exact derivation_of_top_arises hb htop hstart (arises_of_has tokens 0 (Nat.zero_le _) rfl 0 _ hhas)
    · rintro ⟨ht, hleaves⟩
      exact has_of_arises hb htop hstart tokens 0 (Nat.zero_le _) rfl (hcomplete ▸ hdone) 0 _ (top_arises t ht hleaves)
  refine ⟨p, hp, fun hdone => ⟨hnodup, hall hdone, ?_⟩, fun hinfinite => ?_⟩
  · rintro hnil ⟨t, ht⟩
    have := (hall hdone t).2 ht
    rw [hnil] at this
    exact absurd this List.not_mem_nil
  · by_contra hne
    have hdone : p.complete = true := by simpa using hne
    refine hinfinite ((List.finite_toSet p.trees).subset fun t ht => ?_)
    exact (hall hdone t).2 ht

/-- a grammar with a symbol that may vanish: an `a` has two trees -/
def ambiguousSample : Grammar := ⟨[⟨"S", [["A", "A"]]⟩, ⟨"A", [["a"], []]⟩]⟩

theorem built_ambiguousSample : ambiguousSample.Built := ⟨[("S", ["A", "A"]), ("A", ["a"]), ("A", [])], by rfl⟩

/-- the trees of a parse that found them all -/
theorem parse_trees_complete_ambiguous :
    ambiguousSample.Built ∧ ambiguousSample.TopFree ∧ ambiguousSample.start? = some "S" ∧
      ∃ p, parse ambiguousSample ["a"] 100 = .ok p ∧ p.complete = true ∧ p.trees.Nodup ∧
        (∀ t, t ∈ p.trees ↔ ambiguousSample.Derivation "S" t ∧ t.leaves = ["a"]) ∧
        (p.trees = [] → ¬ ∃ t, ambiguousSample.Derivation "S" t ∧ t.leaves = ["a"]) ∧
        ({t | ambiguousSample.Derivation "S" t ∧ t.leaves = ["a"]}.Infinite → p.complete = false) := by
  have hs : ambiguousSample.start? = some "S" := rfl
  obtain ⟨p, hp, hall, hinfinite⟩ := parse_trees_complete built_ambiguousSample (by decide) hs ["a"] 100
  have hdone : p.complete = true := by
    rw [complete_eq_of_parse hs hp]
    open Evaluation in simp [ambiguousSample]
  obtain ⟨hnodup, hmem, hnone⟩ := hall hdone
  exact ⟨built_ambiguousSample, by decide, hs, p, hp, hdone, hnodup, hmem, hnone, hinfinite⟩

end

end GrammarLab.Chart
