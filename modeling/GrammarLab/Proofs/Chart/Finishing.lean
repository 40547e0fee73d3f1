/-
When a parse can be finished.

Items hold whole trees, so a state set can be filled completely only if finitely many items arise at its position.
- `finite_arises`: this is so if every word has finitely many derivation trees from each nonterminal that the start symbol
  leads to, since no other trees are ever put into items;
- `complete_chartFrom`: with a limit that no position exceeds, no state set is given up;
- `parse_complete_of_not_infinitelyAmbiguous`: hence a grammar that is not reported as infinitely ambiguous can always be
  parsed to the end, with any limit from some bound on.
-/
import GrammarLab.Proofs.Chart.Trees
import GrammarLab.Proofs.Grammar.Ambiguity
import Mathlib.Data.Set.Card

namespace GrammarLab.Chart

open Grammar

/-! ## Finitely many items -/

section

variable {g : Grammar} {start : Symbol} {tokens : List Symbol} {p : Nat} {i : Item}

/-- the start symbol leads to every nonterminal in the rule of an item -/
theorem Arises.leads (h : Arises g start tokens p i) {a : Symbol} (ha : a ∈ i.rule) (hname : a ∈ g.names) :
    g.Leads start a := by
  induction h generalizing a with
  | top =>
    obtain rfl : a = start := by simpa [Item.predict, Item.rule] using ha
    exact .refl
  | scan _ _ _ moved ih => exact ih (Item.rule_of_over? moved ▸ ha) hname
  | @predict p i s more rhs asking expected rule ih =>
    have hs : g.Leads start s := ih (by simp [Item.rule, expected]) (mem_names_of_mem_alternatives rule)
    exact hs.tail ⟨hname, rhs, rule, by simpa [Item.predict, Item.rule] using ha⟩
  | complete _ _ _ moved _ ihprev => exact ihprev (Item.rule_of_over? moved ▸ ha) hname

/-- the trees that may stand in an item: leaves of the input, and readings of its parts from what the start symbol leads
to -/
def partTrees (g : Grammar) (start : Symbol) (tokens : List Symbol) : Set ParseTree :=
  ParseTree.leaf '' {a | a ∈ tokens} ∪
    ⋃ b ∈ {b | b ∈ g.names ∧ g.Leads start b}, ⋃ w ∈ {w | w ∈ tokens.sublists}, g.readings b w

theorem finite_partTrees (tokens : List Symbol) (hfinite : ∀ b, g.Leads start b → ∀ w, (g.readings b w).Finite) :
    (partTrees g start tokens).Finite := by
  have hnames : {b | b ∈ g.names ∧ g.Leads start b}.Finite := (List.finite_toSet g.names).subset fun _ hb => hb.1
  refine ((List.finite_toSet tokens).image _).union (hnames.biUnion fun b hb => ?_)
  exact (List.finite_toSet tokens.sublists).biUnion fun w _ => hfinite b hb.2 w

theorem Arises.mem_partTrees (h : Arises g start tokens p i) (hb : g.Built) (htop : g.TopFree)
    (hs : start ∈ g.names) {t : ParseTree} (ht : t ∈ i.parsed) : t ∈ partTrees g start tokens := by
  have hsound := h.sound hb htop hs
  have hvalid := hsound.valid t ht
  have hsub : t.leaves.Sublist tokens := by
    have hpart : t.leaves.Sublist (i.parsed.flatMap ParseTree.leaves) :=
      List.sublist_flatten_of_mem (List.mem_map_of_mem ht)
    have hall : (i.parsed.flatMap ParseTree.leaves).Sublist (tokens.drop p) := by
      rw [hsound.spelled]
      exact List.sublist_append_left _ _
    exact hpart.trans (hall.trans (List.drop_sublist p tokens))
  cases t with
  | leaf a => exact Or.inl ⟨a, hsub.subset (List.mem_singleton_self a), rfl⟩
  | node a cs =>
    have hrule : a ∈ i.rule := by
      rw [Item.rule, ← h.shape.symbols]
      exact List.mem_append_right _ (List.mem_map_of_mem (f := ParseTree.symbol) ht)
    have hleads := h.leads hrule hvalid.mem_names
    exact Or.inr (Set.mem_biUnion ⟨hvalid.mem_names, hleads⟩
      (Set.mem_biUnion (List.mem_sublists.2 hsub) ⟨⟨rfl, hvalid⟩, rfl⟩))

/-- the symbols of all rules, the rule of the top name included -/
def ruleSymbols (g : Grammar) (start : Symbol) : List Symbol := ([start] :: g.names.flatMap g.alternatives).flatten

theorem Arises.rule_sublist (h : Arises g start tokens p i) : i.rule.Sublist (ruleSymbols g start) := by
  apply List.sublist_flatten_of_mem
  rcases h.shape.rule with rule | ⟨-, rule, -⟩
  · exact List.mem_cons_of_mem _ (List.mem_flatMap.2 ⟨_, mem_names_of_mem_alternatives rule, rule⟩)
  · rw [rule]
    exact List.mem_cons_self

theorem Arises.name_mem (h : Arises g start tokens p i) : i.name ∈ topName :: g.names := by
  rcases h.shape.rule with rule | ⟨name, -, -⟩
  · exact List.mem_cons_of_mem _ (mem_names_of_mem_alternatives rule)
  · rw [name]
    exact List.mem_cons_self

/-- **Finitely many items arise at a position** if every word has finitely many derivation trees from whatever the start
symbol leads to. -/
theorem finite_arises (hb : g.Built) (htop : g.TopFree) (hs : start ∈ g.names)
    (hfinite : ∀ b, g.Leads start b → ∀ w, (g.readings b w).Finite) (tokens : List Symbol) (p : Nat) :
    {i | Arises g start tokens p i}.Finite := by
  set symbols := ruleSymbols g start
  have hnames := List.finite_toSet (topName :: g.names)
  have hsymbols := finite_lists (List.finite_toSet symbols) symbols.length
  have htrees := finite_lists (finite_partTrees tokens hfinite) symbols.length
  -- an item is made of a name, two short lists of symbols, a short list of trees and a position
  refine ((hnames.prod (hsymbols.prod (hsymbols.prod (htrees.prod (Set.finite_le_nat tokens.length))))).image
    fun x => (⟨x.1, x.2.1, x.2.2.1, x.2.2.2.1, x.2.2.2.2⟩ : Item)).subset fun i (h : Arises g start tokens p i) => ?_
  have hrule : i.pending.length + i.matched.length ≤ symbols.length := by
    simpa [Item.rule] using h.rule_sublist.length_le
  have hparsed : i.parsed.length = i.matched.length := by rw [← h.shape.symbols, List.length_map]
  have hpendingLen : i.pending.length ≤ symbols.length := by omega
  have hmatchedLen : i.matched.length ≤ symbols.length := by omega
  have hparsedLen : i.parsed.length ≤ symbols.length := by omega
  have hpending : ∀ a ∈ i.pending, a ∈ symbols := fun a ha => h.rule_sublist.subset (by simp [Item.rule, ha])
  have hmatched : ∀ a ∈ i.matched, a ∈ symbols := fun a ha => h.rule_sublist.subset (by simp [Item.rule, ha])
  exact ⟨(i.name, i.pending, i.matched, i.parsed, i.finish), ⟨h.name_mem, ⟨hpendingLen, hpending⟩,
    ⟨hmatchedLen, hmatched⟩, ⟨hparsedLen, fun t ht => h.mem_partTrees hb htop hs ht⟩, h.finish_le⟩, rfl⟩

end

/-! ## Sets that are not given up -/

section

variable {g : Grammar} {start : Symbol} {tokens : List Symbol} {limit : Int}

/-- a set that is given up has passed the limit -/
theorem limit_lt_of_given_up {position : Nat} {later : List StateSet} (front : Front)
    (h : (explore g position later limit front).2 ≠ none) :
    limit < (explore g position later limit front).1.size := by
  fun_induction explore g position later limit front with
  | case1 => exact absurd rfl h
  | case2 _ _ _ _ hfull => exact hfull
  | case3 _ _ _ _ _ _ ih => exact ih h
  | case4 _ _ _ _ _ _ ih => exact ih h

/-- the limit is no smaller than the number of items that arise at any position -/
def Ample (g : Grammar) (start : Symbol) (tokens : List Symbol) (limit : Int) : Prop :=
  ∀ p ≤ tokens.length, {i | Arises g start tokens p i}.Finite ∧ {i | Arises g start tokens p i}.ncard ≤ limit

theorem Ample.explore_eq_none (h : Ample g start tokens limit) {position : Nat} (hp : position ≤ tokens.length)
    {later : List StateSet} (hlater : LaterSound g start tokens position later) {items : List Item}
    (hitems : ∀ i ∈ items, Arises g start tokens position i) :
    (explore g position later limit (.start items)).2 = none := by
  by_contra hne
  have hfull := limit_lt_of_given_up _ hne
  obtain ⟨hfinite, hcard⟩ := h position hp
  have harises : ∀ i ∈ (explore g position later limit (.start items)).1.items, Arises g start tokens position i :=
    arises_of_mem_explore hlater hitems
  have hnodup : (explore g position later limit (.start items)).1.items.Nodup :=
    nodup_explore _ (by simp [Front.start, StateSet.empty])
  have hsize : (explore g position later limit (.start items)).1.size ≤ {i | Arises g start tokens position i}.ncard := by
    rw [StateSet.size, ← List.toFinset_card_of_nodup hnodup, ← Set.ncard_coe_finset]
    exact Set.ncard_le_ncard (fun i hi => harises i (by simpa using hi)) hfinite
  omega

/-- **With an ample limit no state set is given up.** -/
theorem complete_chartFrom (h : Ample g start tokens limit) (rest : List Symbol) :
    ∀ p, p ≤ tokens.length → tokens.drop p = rest → (chartFrom g start limit p rest).complete = true := by
  induction rest with
  | nil =>
    intro p hp hdrop
    obtain rfl : p = tokens.length := Nat.le_antisymm hp (List.drop_eq_nil_iff.1 hdrop)
    rw [chartFrom]
    exact complete_extend.2 ⟨rfl, h.explore_eq_none hp (laterSound_nil _) arises_of_mem_initial⟩
  | cons a rest ih =>
    intro p hp hdrop
    obtain ⟨htoken, hrest, hlen⟩ := getElem?_of_drop_eq_cons hdrop
    have hlater : ∀ k i, (chartFrom g start limit (p + 1) rest).Has k i → Arises g start tokens (p + 1 + k) i :=
      arises_of_has rest (p + 1) hlen hrest
    rw [chartFrom]
    exact complete_extend.2 ⟨ih (p + 1) hlen hrest,
      h.explore_eq_none hp (laterSound_iff.2 hlater) (arises_of_mem_scan htoken (hlater 0))⟩

/-- from some limit on all limits are ample, if finitely many items arise -/
theorem exists_ample (h : ∀ p, {i | Arises g start tokens p i}.Finite) :
    ∃ bound : Int, ∀ limit, bound ≤ limit → Ample g start tokens limit := by
  let card (p : Nat) : Nat := {i | Arises g start tokens p i}.ncard
  refine ⟨((Finset.range (tokens.length + 1)).sup card : Nat), fun limit hlimit p hp => ⟨h p, ?_⟩⟩
  have hle : card p ≤ (Finset.range (tokens.length + 1)).sup card :=
    Finset.le_sup (Finset.mem_range.2 (Nat.lt_succ_of_le hp))
  show (card p : Int) ≤ limit
  omega

end

/-- **A grammar that is not reported as infinitely ambiguous can be parsed to the end.** Finitely many items arise at
every position of any input, and there is a bound such that with every limit from the bound on the parse is complete. -/
theorem parse_complete_of_not_infinitelyAmbiguous {g : Grammar} {s : Symbol} {a : Analysis} (hb : g.Built)
    (htop : g.TopFree) (hs : g.start? = some s) (ha : g.analyse = .ok a) (hfalse : a.infinitelyAmbiguous = false)
    (tokens : List Symbol) :
    (∀ p, {i | Arises g s tokens p i}.Finite) ∧
      ∃ bound : Int, ∀ limit, bound ≤ limit → ∃ p, parse g tokens limit = .ok p ∧ p.complete = true := by
  have hfinite : ∀ p, {i | Arises g s tokens p i}.Finite := finite_arises hb htop (mem_names_of_start? hs)
    (fun b hleads => (analysed hb hs ha).finite_readings hfalse hleads) tokens
  obtain ⟨bound, hbound⟩ := exists_ample hfinite
  refine ⟨hfinite, bound, fun limit hlimit => ?_⟩
  obtain ⟨p, hp, hcomplete, -⟩ := parse_eq_ok hb hs tokens limit
  exact ⟨p, hp, hcomplete.trans (complete_chartFrom (hbound limit hlimit) tokens 0 (Nat.zero_le _) rfl)⟩

/-- a grammar with a symbol that comes back to itself but generates nothing -/
def idleSample : Grammar := ⟨[⟨"S", [["a", "S"], [], ["C"]]⟩, ⟨"C", [["C"]]⟩]⟩

theorem eq_of_collapses_idle {a b : Symbol} (h : idleSample.Collapses a b) : b = "C" := by
  obtain ⟨hb, before, after, rule, hempty⟩ := h
  have hbeside : ∀ a ∈ idleSample.names, ∀ rhs ∈ idleSample.alternatives a, "S" ∈ rhs → "a" ∈ rhs := by decide
  have hnames : b = "S" ∨ b = "C" := by simpa [idleSample, Grammar.names] using hb
  rcases hnames with rfl | rfl
  · -- `S` stands only beside `a`, and a terminal does not vanish
    have ha := hbeside a (mem_names_of_mem_alternatives rule) _ rule (by simp)
    exact absurd (hempty "a" (by simpa using ha)).realizable.mem_names (by decide)
  · rfl

theorem not_realizable_idle : ¬ idleSample.Realizable "C" := by
  rintro ⟨t, ht⟩
  suffices ∀ t, idleSample.Valid t → t.symbol ≠ "C" from this t ht.valid ht.symbol_eq
  intro t hvalid
  induction hvalid with
  | leaf terminal =>
    rintro rfl
    exact absurd terminal (by decide)
  | @node s cs rule below ih =>
    rintro rfl
    have hsymbols : cs.map ParseTree.symbol = ["C"] := by
      simpa [idleSample, Grammar.alternatives, Grammar.alternatives?] using rule
    obtain ⟨c, rfl, hc⟩ := List.map_eq_singleton_iff.1 hsymbols
    exact ih c (List.mem_singleton_self c) hc

/-- a grammar with a cycle that no derivation tree goes round -/
theorem parse_complete_idle :
    idleSample.Built ∧ idleSample.TopFree ∧ idleSample.start? = some "S" ∧ ∃ a, idleSample.analyse = .ok a ∧
      "C" ∈ a.cyclic ∧ a.infinitelyAmbiguous = false ∧
      ((∀ p, {i | Arises idleSample "S" ["a", "a"] p i}.Finite) ∧
        ∃ bound : Int, ∀ limit, bound ≤ limit →
          ∃ p, parse idleSample ["a", "a"] limit = .ok p ∧ p.complete = true) := by
  have hb : idleSample.Built := ⟨[("S", ["a", "S"]), ("S", []), ("S", ["C"]), ("C", ["C"])], by rfl⟩
  obtain ⟨a, ha⟩ := exists_analysis hb (by decide)
  have h := analysed hb rfl ha
  have hcyclic : idleSample.Cyclic "C" := .single ⟨by decide, [], [], by decide, by simp⟩
  have hfalse : a.infinitelyAmbiguous = false := by
    refine Bool.eq_false_iff.2 fun htrue => ?_
    obtain ⟨b, hb, -, hreal⟩ := h.infinitelyAmbiguous_iff.1 htrue
    obtain ⟨c, -, hlast⟩ := Relation.TransGen.tail'_iff.1 hb
    obtain rfl := eq_of_collapses_idle hlast
    exact not_realizable_idle hreal
  exact ⟨hb, by decide, rfl, a, ha, (h.cyclic "C").2 hcyclic, hfalse,
    parse_complete_of_not_infinitelyAmbiguous hb (by decide) rfl ha hfalse ["a", "a"]⟩

end GrammarLab.Chart
