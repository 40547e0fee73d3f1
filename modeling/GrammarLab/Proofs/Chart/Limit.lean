/-
State sets and the limit on their size.

The limit is compared with the size of the growing set before every item is taken, and with nothing else.
- `size_le_of_mem_sets`: so no state set ever has more than one item beyond the limit, and none has an item if the limit
  is negative;
- `two_mul_length_trees_le`: a parse returns at most half as many trees as its first state set has items;
- `explore_raise`: work that came to its end under a limit never met it, and goes the same way under every greater one;
- `parse_raise_limit`: position by position, each from the same sets, this carries over to whole charts, so raising the
  limit never changes an answer that was complete.
-/
import GrammarLab.Proofs.Chart.Trees

namespace GrammarLab.Chart

/-! ## No set is larger than the limit allows -/

section

variable {g : Grammar} {start : Symbol} {position : Nat} {later : List StateSet} {limit : Int}

theorem size_explore_le (front : Front) (h : (front.set.size : Int) ≤ max (limit + 1) 0) :
    ((explore g position later limit front).1.size : Int) ≤ max (limit + 1) 0 := by
  obtain ⟨last, hlast, heq, -⟩ := @explore_induction g position later limit
    (fun front => (front.set.size : Int) ≤ max (limit + 1) 0) (fun _ _ _ _ _ h => h)
    (fun front item queue _ hroom _ _ => by
      have hsize : (Front.take g position later { front with queue } item).set.size = front.set.size + 1 :=
        StateSet.size_push front.set item
      rw [hsize]
      omega) front h
  rw [heq]
  exact hlast

/-- **No state set of a chart has more items than one beyond the limit**, complete or not. -/
theorem size_le_of_mem_sets (tokens : List Symbol) :
    ∀ p, ∀ set ∈ (chartFrom g start limit p tokens).sets, (set.size : Int) ≤ max (limit + 1) 0 := by
  have hfirst : ∀ (position : Nat) (sets : List StateSet) (items : List Item),
      ((explore g position sets limit (.start items)).1.size : Int) ≤ max (limit + 1) 0 :=
    fun position sets items => size_explore_le _ (Int.le_max_right _ _)
  induction tokens with
  | nil =>
    intro p set hset
    rw [chartFrom, sets_extend, List.mem_singleton] at hset
    rw [hset]
    exact hfirst p _ _
  | cons token tokens ih =>
    intro p set hset
    rw [chartFrom, sets_extend] at hset
    rcases List.mem_cons.1 hset with hset | hset
    · rw [hset]
      exact hfirst p _ _
    · exact ih (p + 1) set hset

/-- a chart has a state set for every token and one for the end -/
theorem length_sets (tokens : List Symbol) :
    ∀ p, (chartFrom g start limit p tokens).sets.length = tokens.length + 1 := by
  induction tokens with
  | nil => intro p; simp [chartFrom, sets_extend]
  | cons token tokens ih => intro p; simp [chartFrom, sets_extend, ih]

end

/-! ## No more trees than half of the limit -/

/-- moving an item over a tree gives the completed item of the top name over that tree, if it gives one of those -/
theorem over?_eq_topItem {start s : Symbol} {tokens : List Symbol} {t u : ParseTree} {prev : Item}
    (h : prev.over? s t = some (topItem start tokens u)) : s = start ∧ t = u := by
  obtain ⟨rest, -, heq⟩ := Item.over?_eq_some_iff.1 h
  simp only [topItem, Item.mk.injEq, List.cons.injEq] at heq
  exact ⟨heq.2.2.1.1.symm, heq.2.2.2.1.1.symm⟩

theorem predict_ne_topItem {start s : Symbol} {tokens rhs : List Symbol} {t : ParseTree} {f : Nat} :
    Item.predict s rhs f ≠ topItem start tokens t := by
  simp [Item.predict, topItem]

/-- for every completed item of the top name that is known, the set has the completed item that it was moved over, and
for every empty tree the completed item that it is the tree of -/
structure Front.Paired (start : Symbol) (tokens : List Symbol) (front : Front) : Prop where
  known : ∀ t, front.Knows (topItem start tokens t) → ∃ i ∈ front.set.items, i.name = start ∧ i.tree = t
  empties : ∀ t ∈ front.empties, ∃ i ∈ front.set.items, i.tree = t

section

variable {g : Grammar} {start : Symbol} {tokens : List Symbol} {position : Nat} {later : List StateSet} {limit : Int}

theorem Front.paired_start {items : List Item} (h : ∀ t, topItem start tokens t ∉ items) :
    (Front.start items).Paired start tokens := by
  refine ⟨fun t ht => ?_, by simp [Front.start]⟩
  exact absurd ((Front.knows_start items _).1 ht) (h t)

theorem Front.Paired.skip {front : Front} (h : front.Paired start tokens) {item : Item} {queue : Queue Item}
    (hpop : front.queue.pop? = some (item, queue)) : ({ front with queue } : Front).Paired start tokens :=
  ⟨fun t ht => h.known t ((Front.knows_of_pop hpop _).2 (Or.inr ht)), h.empties⟩

theorem Front.Paired.take {front : Front} (h : front.Paired start tokens) {item : Item} {queue : Queue Item}
    (hpop : front.queue.pop? = some (item, queue)) :
    (Front.take g position later { front with queue } item).Paired start tokens := by
  have hold : ∀ i ∈ front.set.items, i ∈ (Front.take g position later { front with queue } item).set.items :=
    fun i hi => Front.mem_set_take.2 (Or.inl hi)
  have hself : item ∈ (Front.take g position later { front with queue } item).set.items :=
    Front.mem_set_take.2 (Or.inr rfl)
  constructor
  · intro t ht
    rcases (Front.knows_take hpop _).1 ht with ht | ht
    · obtain ⟨i, hi, hname, htree⟩ := h.known t ht
      exact ⟨i, hold i hi, hname, htree⟩
    · cases hpending : item.pending with
      | nil =>
        -- a completed item moves others over its own tree, and is in the set by now
        obtain ⟨prev, -, moved⟩ := (mem_consequences_completed (Item.isCompleted_iff.2 hpending)).1 ht
        obtain ⟨hname, htree⟩ := over?_eq_topItem moved
        exact ⟨item, hself, hname, htree⟩
      | cons s more =>
        obtain ⟨-, ⟨rhs, -, hpredict⟩ | ⟨u, hu, hroot, moved⟩⟩ := (mem_consequences_expecting hpending).1 ht
        · exact absurd hpredict.symm predict_ne_topItem
        · obtain ⟨rfl, rfl⟩ := over?_eq_topItem moved
          obtain ⟨i, hi, rfl⟩ := h.empties u hu
          exact ⟨i, hold i hi, Option.some.inj hroot, rfl⟩
  · intro t ht
    rcases Front.mem_empties_take.1 ht with ht | ⟨-, -, rfl⟩
    · obtain ⟨i, hi, htree⟩ := h.empties t ht
      exact ⟨i, hold i hi, htree⟩
    · exact ⟨item, hself, rfl⟩

/-- a filled set has, for every completed item of the top name in it, the item that this was moved over -/
theorem exists_mem_explore_of_topItem {items : List Item} (h : ∀ t, topItem start tokens t ∉ items) {t : ParseTree}
    (ht : topItem start tokens t ∈ (explore g position later limit (.start items)).1.items) :
    ∃ i ∈ (explore g position later limit (.start items)).1.items, i.name = start ∧ i.tree = t := by
  obtain ⟨last, hlast, heq, -⟩ := @explore_induction g position later limit
    (fun front => front.Paired start tokens) (fun _ _ _ hpop _ h => h.skip hpop)
    (fun _ _ _ hpop _ _ h => h.take hpop) (.start items) (Front.paired_start h)
  rw [heq] at ht ⊢
  exact hlast.known t (Or.inl ht)

/-- the first state set of a chart has an item of the start symbol for every completed item of the top name: no token is
the start symbol, so none of these comes from the position behind -/
theorem exists_has_of_has_topItem (hs : start ∈ g.names) {p : Nat} {rest : List Symbol} {t : ParseTree}
    (ht : (chartFrom g start limit p rest).Has 0 (topItem start tokens t)) :
    ∃ i, (chartFrom g start limit p rest).Has 0 i ∧ i.name = start ∧ i.tree = t := by
  have hpaired : ∀ (chart : Chart) (items : List Item), (∀ t, topItem start tokens t ∉ items) →
      (chart.extend g limit p items).Has 0 (topItem start tokens t) →
      ∃ i, (chart.extend g limit p items).Has 0 i ∧ i.name = start ∧ i.tree = t := by
    intro chart items hitems hhas
    obtain ⟨i, hi, hname, htree⟩ := exists_mem_explore_of_topItem hitems (has_extend_zero.1 hhas)
    exact ⟨i, has_extend_zero.2 hi, hname, htree⟩
  cases rest with
  | nil =>
    rw [chartFrom] at ht ⊢
    refine hpaired _ _ (fun u hu => ?_) ht
    exact predict_ne_topItem (List.mem_singleton.1 hu).symm
  | cons token rest =>
    rw [chartFrom] at ht ⊢
    refine hpaired _ _ (fun u hu => ?_) ht
    obtain ⟨terminal, i, -, moved⟩ := mem_scan.1 hu
    obtain ⟨rfl, -⟩ := over?_eq_topItem moved
    exact (Grammar.isTerminal_iff g _).1 terminal hs

/-- **A parse returns at most half as many trees as the first state set has items**: every tree stands there twice, in a
completed item of the top name and as that of a completed item of the start symbol. -/
theorem two_mul_length_trees_le (hb : g.Built) (hs : g.start? = some start) {p : Parse}
    (hp : parse g tokens limit = .ok p) {first : StateSet}
    (hfirst : (chartFrom g start limit 0 tokens).sets[0]? = some first) : 2 * p.trees.length ≤ first.size := by
  obtain ⟨q, hq, -, hnodup, hmem⟩ := parse_eq_ok hb hs tokens limit
  obtain rfl : p = q := Except.ok.inj (hp.symm.trans hq)
  have hstart := Grammar.mem_names_of_start? hs
  have hhas : ∀ i, (chartFrom g start limit 0 tokens).Has 0 i ↔ i ∈ first.items := fun i => by simp [Has, hfirst]
  have htop : p.trees.length ≤ (first.items.filter (·.name = topName)).length := by
    have hsub : p.trees.map (topItem start tokens) ⊆ first.items.filter (·.name = topName) := by
      intro i hi
      obtain ⟨t, ht, rfl⟩ := List.mem_map.1 hi
      exact List.mem_filter.2 ⟨(hhas _).1 ((hmem t).1 ht), by simp [topItem]⟩
    have hle := ((hnodup.map (topItem_injective start tokens)).subperm hsub).length_le
    rwa [List.length_map] at hle
  have howner : p.trees.length ≤ (first.items.filter (·.name = start)).length := by
    have hsub : p.trees ⊆ (first.items.filter (·.name = start)).map Item.tree := by
      intro t ht
      obtain ⟨i, hi, hname, htree⟩ := exists_has_of_has_topItem hstart ((hmem t).1 ht)
      exact List.mem_map.2 ⟨i, List.mem_filter.2 ⟨(hhas i).1 hi, by simpa using hname⟩, htree⟩
    have hle := (hnodup.subperm hsub).length_le
    rwa [List.length_map] at hle
  have hdisjoint : (first.items.filter (·.name = start)).length ≤
      (first.items.filter fun i => !decide (i.name = topName)).length := by
    refine (List.monotone_filter_right _ fun i hi => ?_).length_le
    have hname : i.name = start := by simpa using hi
    have hne : i.name ≠ topName := fun e => hb.topName_not_mem (e ▸ hname ▸ hstart)
    simpa using hne
  calc 2 * p.trees.length
      ≤ (first.items.filter (·.name = topName)).length + (first.items.filter fun i => !decide (i.name = topName)).length := by
        omega
    _ = first.size := (List.length_eq_length_filter_add _).symm

end

/-! ## A greater limit -/

section

variable {g : Grammar} {start : Symbol} {position : Nat} {later : List StateSet} {limit limit' : Int}

/-- work that came to its end is the same under a greater limit: wherever the smaller one let it go on, so does the
greater -/
theorem explore_raise (h : limit ≤ limit') (front : Front)
    (hdone : (explore g position later limit front).2 = none) :
    explore g position later limit' front = explore g position later limit front := by
  fun_induction explore g position later limit front with
  | case1 front hpop => exact explore_of_pop?_eq_none front hpop
  | case2 front item queue hpop hfull => cases hdone
  | case3 front item queue hpop hroom hmem ih =>
    have hroom' : ¬ limit' < front.set.size := by omega
    rw [explore_of_pop?_eq_some front hpop, if_neg hroom', if_pos hmem]
    exact ih hdone
  | case4 front item queue hpop hroom hmem ih =>
    have hroom' : ¬ limit' < front.set.size := by omega
    rw [explore_of_pop?_eq_some front hpop, if_neg hroom', if_neg hmem]
    exact ih hdone

theorem extend_raise (h : limit ≤ limit') {chart : Chart} {items : List Item}
    (hdone : (explore g position chart.sets limit (.start items)).2 = none) :
    chart.extend g limit' position items = chart.extend g limit position items := by
  have hsame := explore_raise h (.start items) hdone
  unfold extend
  rw [hsame]
  -- only the report of a set that was given up names the limit
  rcases hwork : explore g position chart.sets limit (.start items) with ⟨set, _ | waiting⟩
  · rfl
  · rw [hwork] at hdone
    cases hdone

/-- **A chart of which nothing was given up is the same chart under every greater limit.** Every position is worked
through from the sets of the later ones, which are the same by induction. -/
theorem chartFrom_raise (h : limit ≤ limit') (tokens : List Symbol) :
    ∀ p, (chartFrom g start limit p tokens).complete = true →
      chartFrom g start limit' p tokens = chartFrom g start limit p tokens := by
  induction tokens with
  | nil =>
    intro p hdone
    rw [chartFrom] at hdone
    rw [chartFrom, chartFrom]
    exact extend_raise h (complete_extend.1 hdone).2
  | cons token tokens ih =>
    intro p hdone
    rw [chartFrom] at hdone
    obtain ⟨hlater, hwork⟩ := complete_extend.1 hdone
    rw [chartFrom, chartFrom, ih (p + 1) hlater]
    exact extend_raise h hwork

/-- **Raising the limit never changes a complete answer**: the parse is complete again, with the same trees in the same
order and the same report on the way. -/
theorem parse_raise_limit (h : limit ≤ limit') {tokens : List Symbol} {p : Parse} (hp : parse g tokens limit = .ok p)
    (hdone : p.complete = true) : parse g tokens limit' = .ok p := by
  obtain ⟨s, ts, hs, hts, rfl⟩ := parse_eq_ok_iff.1 hp
  have hchart : chartFrom g s limit' 0 tokens = chartFrom g s limit 0 tokens := chartFrom_raise h tokens 0 hdone
  refine parse_eq_ok_iff.2 ⟨s, ts, hs, ?_, ?_⟩
  · rw [hchart]
    exact hts
  · rw [hchart]

/-- the least limit under which a parse of the ambiguous sample is complete, raised to the usual one; the first state set
is then one item larger than the limit was -/
theorem parse_raise_limit_ambiguous :
    (7 : Int) ≤ defaultLimit ∧ ∃ p, parse ambiguousSample ["a"] 7 = .ok p ∧ p.complete = true ∧
      parse ambiguousSample ["a"] defaultLimit = .ok p := by
  obtain ⟨p, hp, hcomplete, -⟩ := parse_eq_ok built_ambiguousSample rfl ["a"] 7
  have hdone : p.complete = true := by
    rw [hcomplete]
    open Evaluation in simp [ambiguousSample]
  exact ⟨by decide, p, hp, hdone, parse_raise_limit (by decide) hp hdone⟩

end

end GrammarLab.Chart
