/-
The parser and the names of symbols.

Main statements:
- `chartFrom_rename`: an injective renaming that leaves the top name alone takes a whole chart to the chart of the renamed
  grammar and tokens, set by set and item by item; every comparison of names on the way comes out the same;
- `chartFrom_congr`: tokens that stand in no rule may be exchanged for other such tokens;
- `parse_rename`: so a parse gives the renamed trees, in the same order and with the same flag, for every renaming that
  takes the top name in an alternative to itself and no other symbol there to it;
- `parse_rename_to_top`: where a terminal is renamed to the top name this fails. The parser takes the terminal for its
  own start symbol.
-/
import GrammarLab.Proofs.Grammar.Renaming
import GrammarLab.Proofs.Chart.Finishing
import Mathlib.Logic.Equiv.Basic

namespace GrammarLab.Chart

open Grammar

/-! ## Items -/

namespace Item

/-- the item with other names for its symbols -/
def rename (r : Symbol → Symbol) (i : Item) : Item :=
  ⟨r i.name, i.pending.map r, i.matched.map r, i.parsed.map (ParseTree.rename r), i.finish⟩

variable {r : Symbol → Symbol}

@[simp] theorem name_rename (r : Symbol → Symbol) (i : Item) : (i.rename r).name = r i.name := rfl

@[simp] theorem pending_rename (r : Symbol → Symbol) (i : Item) : (i.rename r).pending = i.pending.map r := rfl

@[simp] theorem finish_rename (r : Symbol → Symbol) (i : Item) : (i.rename r).finish = i.finish := rfl

@[simp] theorem isCompleted_rename (r : Symbol → Symbol) (i : Item) : (i.rename r).isCompleted = i.isCompleted := by
  simp [isCompleted]

@[simp] theorem tree_rename (r : Symbol → Symbol) (i : Item) : (i.rename r).tree = i.tree.rename r := by
  simp [tree, rename]

@[simp] theorem predict_rename (r : Symbol → Symbol) (s : Symbol) (rhs : List Symbol) (finish : Nat) :
    (predict s rhs finish).rename r = predict (r s) (rhs.map r) finish := by
  simp [predict, rename]

theorem over?_rename (hr : r.Injective) (i : Item) (s : Symbol) (t : ParseTree) :
    (i.rename r).over? (r s) (t.rename r) = (i.over? s t).map (rename r) := by
  unfold over?
  rw [pending_rename]
  cases i.pending with
  | nil => rfl
  | cons p rest =>
    by_cases hp : p = s
    · simp [hp, rename]
    · simp [hp, hr.eq_iff]

theorem filterMap_over?_rename (hr : r.Injective) (s : Symbol) (t : ParseTree) (items : List Item) :
    (items.map (rename r)).filterMap (over? (r s) (t.rename r)) = (items.filterMap (over? s t)).map (rename r) := by
  rw [List.filterMap_map, List.map_filterMap]
  exact List.filterMap_congr fun i _ => over?_rename hr i s t

theorem rename_injective (hr : r.Injective) : (rename r).Injective := by
  rintro ⟨name, pending, matched, parsed, finish⟩ ⟨name', pending', matched', parsed', finish'⟩ h
  simp only [rename, mk.injEq, hr.eq_iff, List.map_inj_right fun _ _ => hr.eq_iff.1,
    List.map_inj_right fun _ _ => (ParseTree.rename_injective hr).eq_iff.1] at h
  simpa using h

end Item

/-! ## One position -/

section

variable {r : Symbol → Symbol} {g : Grammar} {position : Nat} {later later' : List StateSet} {set set' : StateSet}

/-- the second state sets are the first with other names for the symbols, item by item -/
def RenamedSets (r : Symbol → Symbol) (sets sets' : List StateSet) : Prop :=
  sets'.map (·.items) = sets.map fun s => s.items.map (Item.rename r)

theorem waitingFor_rename (hset : set'.items = set.items.map (Item.rename r)) (hlater : RenamedSets r later later')
    (finish : Nat) :
    waitingFor position set' later' finish = (waitingFor position set later finish).map (Item.rename r) := by
  unfold waitingFor
  split_ifs
  · exact hset
  · have hget := congrArg (·[finish - position - 1]?) hlater
    simp only [List.getElem?_map] at hget
    rw [hget]
    cases later[finish - position - 1]? <;> rfl

theorem consequences_rename (hr : r.Injective) (hset : set'.items = set.items.map (Item.rename r))
    (hlater : RenamedSets r later later') (empties : List ParseTree) (item : Item) :
    consequences (g.rename r) position later' set' (empties.map (ParseTree.rename r)) (item.rename r) =
      (consequences g position later set empties item).map (Item.rename r) := by
  unfold consequences
  rw [Item.pending_rename]
  cases item.pending with
  | nil =>
    simp only [List.map_nil, Item.name_rename, Item.tree_rename, Item.finish_rename]
    rw [waitingFor_rename hset hlater, Item.filterMap_over?_rename hr]
  | cons s more =>
    simp only [List.map_cons, alternatives?_rename hr]
    cases g.alternatives? s with
    | none => rfl
    | some alternatives =>
      have hasked : ∀ t : ParseTree, (decide ((t.rename r).nonTerminal? = some (r s)) : Bool) =
          decide (t.nonTerminal? = some s) := by
        intro t
        rw [ParseTree.nonTerminal?_rename]
        cases t.nonTerminal? <;> simp [hr.eq_iff]
      simp only [Option.map_some, List.map_append, List.map_map, List.filter_map, List.filterMap_map,
        List.map_filterMap, Function.comp_def, hasked, Item.over?_rename hr, Item.predict_rename]

/-- the second front is the first with other names for the symbols; the two ends of the queue may differ -/
structure Front.Renamed (r : Symbol → Symbol) (front front' : Front) : Prop where
  set : front'.set.items = front.set.items.map (Item.rename r)
  queue : front'.queue.toList = front.queue.toList.map (Item.rename r)
  empties : front'.empties = front.empties.map (ParseTree.rename r)

theorem Front.renamed_start (r : Symbol → Symbol) (items : List Item) :
    Front.Renamed r (.start items) (.start (items.map (Item.rename r))) := by
  refine ⟨?_, ?_, ?_⟩ <;> simp [Front.start, StateSet.empty]

theorem Front.Renamed.take (hr : r.Injective) (hlater : RenamedSets r later later') {front front' : Front}
    (h : front.Renamed r front') (item : Item) :
    (Front.take g position later front item).Renamed r
      (Front.take (g.rename r) position later' front' (item.rename r)) := by
  have hset : (front'.set.push (item.rename r)).items = (front.set.push item).items.map (Item.rename r) := by
    simp [StateSet.push, h.set]
  refine ⟨hset, ?_, ?_⟩
  · simp only [Front.take, Queue.toList_pushAll, h.queue, h.empties, List.map_append, consequences_rename hr hset hlater]
  · simp only [Front.take, Item.isCompleted_rename, Item.finish_rename, Item.tree_rename, h.empties]
    split_ifs <;> simp

/-- what leaves the one queue leaves the other -/
theorem Front.Renamed.pop {front front' : Front} (h : front.Renamed r front') {item : Item} {queue : Queue Item}
    (hpop : front.queue.pop? = some (item, queue)) :
    ∃ queue', front'.queue.pop? = some (item.rename r, queue') ∧
      ({ front with queue } : Front).Renamed r { front' with queue := queue' } := by
  have hlist := h.queue
  rw [Queue.toList_of_pop?_eq_some hpop, List.map_cons] at hlist
  cases hpop' : front'.queue.pop? with
  | none =>
    rw [Queue.toList_of_pop?_eq_none hpop'] at hlist
    cases hlist
  | some next =>
    obtain ⟨item', queue'⟩ := next
    rw [Queue.toList_of_pop?_eq_some hpop'] at hlist
    obtain ⟨rfl, hrest⟩ := List.cons.inj hlist
    exact ⟨queue', rfl, h.set, hrest, h.empties⟩

theorem Front.Renamed.pop_none {front front' : Front} (h : front.Renamed r front') (hpop : front.queue.pop? = none) :
    front'.queue.pop? = none := by
  cases hpop' : front'.queue.pop? with
  | none => rfl
  | some next =>
    have hlist := h.queue
    rw [Queue.toList_of_pop?_eq_none hpop, Queue.toList_of_pop?_eq_some (x := next.1) (r := next.2) hpop'] at hlist
    cases hlist

theorem Front.Renamed.mem_iff (hr : r.Injective) {front front' : Front} (h : front.Renamed r front') (item : Item) :
    item.rename r ∈ front'.set ↔ item ∈ front.set := by
  show item.rename r ∈ front'.set.items ↔ item ∈ front.set.items
  rw [h.set, List.mem_map_of_injective (Item.rename_injective hr)]

theorem Front.Renamed.size_eq {front front' : Front} (h : front.Renamed r front') :
    front'.set.size = front.set.size := by
  rw [StateSet.size, h.set, List.length_map, StateSet.size]

theorem Front.Renamed.queue_size_eq {front front' : Front} (h : front.Renamed r front') :
    front'.queue.size = front.queue.size := by
  rw [← Queue.length_toList, h.queue, List.length_map, Queue.length_toList]

/-- **Filling a set goes the same way with other names**: it is given up at the same place, with as many items waiting. -/
theorem explore_rename (g : Grammar) (position : Nat) (limit : Int) (hr : r.Injective)
    (hlater : RenamedSets r later later') {front front' : Front} (h : front.Renamed r front') :
    (explore (g.rename r) position later' limit front').1.items =
        (explore g position later limit front).1.items.map (Item.rename r) ∧
      (explore (g.rename r) position later' limit front').2 = (explore g position later limit front).2 := by
  fun_induction explore g position later limit front generalizing front' with
  | case1 front hpop =>
    rw [explore_of_pop?_eq_none _ (h.pop_none hpop)]
    exact ⟨h.set, rfl⟩
  | case2 front item queue hpop hfull =>
    obtain ⟨queue', hpop', hrest⟩ := h.pop hpop
    rw [explore_of_pop?_eq_some _ hpop', h.size_eq, if_pos hfull]
    exact ⟨h.set, congrArg (fun n => some (n + 1)) hrest.queue_size_eq⟩
  | case3 front item queue hpop hroom hmem ih =>
    obtain ⟨queue', hpop', hrest⟩ := h.pop hpop
    rw [explore_of_pop?_eq_some _ hpop', h.size_eq, if_neg hroom, if_pos ((h.mem_iff hr item).2 hmem)]
    exact ih hrest
  | case4 front item queue hpop hroom hmem ih =>
    obtain ⟨queue', hpop', hrest⟩ := h.pop hpop
    rw [explore_of_pop?_eq_some _ hpop', h.size_eq, if_neg hroom, if_neg fun hmem' => hmem ((h.mem_iff hr item).1 hmem')]
    exact ih (hrest.take hr hlater item)

end

/-! ## All positions -/

/-- the second chart is the first with other names for the symbols; what was reported on the way is the same -/
structure Renamed (r : Symbol → Symbol) (chart chart' : Chart) : Prop where
  sets : RenamedSets r chart.sets chart'.sets
  events : chart'.events = chart.events
  complete : chart'.complete = chart.complete

section

variable {r : Symbol → Symbol} {g : Grammar} {limit : Int} {chart chart' : Chart}

theorem Renamed.extend (g : Grammar) (limit : Int) (hr : r.Injective) (h : chart.Renamed r chart') (position : Nat)
    (items : List Item) :
    (chart.extend g limit position items).Renamed r
      (chart'.extend (g.rename r) limit position (items.map (Item.rename r))) := by
  obtain ⟨hitems, hleft⟩ := explore_rename g position limit hr h.sets (Front.renamed_start r items)
  have hsets : RenamedSets r ((explore g position chart.sets limit (.start items)).1 :: chart.sets)
      ((explore (g.rename r) position chart'.sets limit (.start (items.map (Item.rename r)))).1 :: chart'.sets) := by
    rw [RenamedSets, List.map_cons, List.map_cons, hitems, h.sets]
  have hsize := congrArg List.length hitems
  rw [List.length_map] at hsize
  unfold Chart.extend
  rcases hexplore : explore g position chart.sets limit (.start items) with ⟨set, left⟩
  rcases hexplore' : explore (g.rename r) position chart'.sets limit (.start (items.map (Item.rename r)))
    with ⟨set', left'⟩
  rw [hexplore, hexplore'] at hleft hsets hsize
  obtain rfl : left' = left := hleft
  have hsize' : set'.size = set.size := hsize
  cases left' with
  | none => exact ⟨hsets, by simp only [h.events, hsize'], h.complete⟩
  | some waiting => exact ⟨hsets, by simp only [h.events, hsize'], rfl⟩

theorem scan_rename (hr : r.Injective) (h : chart.Renamed r chart') (token : Symbol) :
    scan (g.rename r) (r token) chart' = (scan g token chart).map (Item.rename r) := by
  have hsets := h.sets
  unfold scan
  rw [isTerminal_rename hr]
  split_ifs with hterminal
  · cases hchart : chart.sets with
    | nil =>
      rw [RenamedSets, hchart, List.map_nil, List.map_eq_nil_iff] at hsets
      rw [hsets]
      rfl
    | cons set sets =>
      rw [RenamedSets, hchart, List.map_cons, List.map_eq_cons_iff] at hsets
      obtain ⟨set', sets', hchart', hset, -⟩ := hsets
      simp only [hchart', hset]
      exact Item.filterMap_over?_rename hr token (.leaf token) set.items
  · rfl

/-- **A chart goes through an injective renaming that leaves the top name alone.** -/
theorem chartFrom_rename (g : Grammar) (limit : Int) (hr : r.Injective) (htop : r topName = topName) (start : Symbol)
    (tokens : List Symbol) :
    ∀ p, (chartFrom g start limit p tokens).Renamed r (chartFrom (g.rename r) (r start) limit p (tokens.map r)) := by
  induction tokens with
  | nil =>
    intro p
    have hempty : (⟨[], [], true⟩ : Chart).Renamed r ⟨[], [], true⟩ := ⟨rfl, rfl, rfl⟩
    have hextend := hempty.extend g limit hr p [Item.predict topName [start] p]
    simpa [chartFrom, htop] using hextend
  | cons token tokens ih =>
    intro p
    rw [List.map_cons, chartFrom, chartFrom, scan_rename hr (ih (p + 1))]
    exact (ih (p + 1)).extend g limit hr p _

/-! ## Trees -/

theorem completeTop_eq_ok_iff {i : Item} {t : ParseTree} :
    i.completeTop = .ok t ↔ i.isCompleted = true ∧ i.name = topName ∧ i.parsed = [t] ∧ ∃ a cs, t = .node a cs := by
  unfold Item.completeTop Item.finishedWith
  by_cases hfinished : i.isCompleted = true ∧ i.name = topName
  · rcases hparsed : i.parsed with _ | ⟨_ | ⟨a, cs⟩, _ | ⟨u, us⟩⟩ <;> simp [hfinished]
    all_goals aesop
  · rcases not_and_or.1 hfinished with h | h <;> simp [h]

theorem completeTop_rename (htop : r topName = topName) {i : Item} {t : ParseTree} (h : i.completeTop = .ok t) :
    (i.rename r).completeTop = .ok (t.rename r) := by
  obtain ⟨hdone, hname, hparsed, a, cs, rfl⟩ := completeTop_eq_ok_iff.1 h
  refine completeTop_eq_ok_iff.2 ⟨by simpa using hdone, by simp [hname, htop], ?_, r a, _, ParseTree.rename_node r a cs⟩
  simp [Item.rename, hparsed]

theorem mapM_completeTop_rename (htop : r topName = topName) {items : List Item} {ts : List ParseTree}
    (h : items.mapM Item.completeTop = .ok ts) :
    (items.map (Item.rename r)).mapM Item.completeTop = .ok (ts.map (ParseTree.rename r)) := by
  induction items generalizing ts with
  | nil =>
    obtain rfl := Except.ok.inj h
    rfl
  | cons i items ih =>
    rw [List.mapM_cons] at h
    cases hi : i.completeTop with
    | error e => rw [hi] at h; cases h
    | ok t =>
      cases hrest : items.mapM Item.completeTop with
      | error e => rw [hi, hrest] at h; cases h
      | ok us =>
        rw [hi, hrest] at h
        obtain rfl := Except.ok.inj h
        rw [List.map_cons, List.mapM_cons, completeTop_rename htop hi, ih hrest]
        rfl

theorem Renamed.trees (hr : r.Injective) (htop : r topName = topName) (h : chart.Renamed r chart')
    {ts : List ParseTree} (hts : chart.trees = .ok ts) : chart'.trees = .ok (ts.map (ParseTree.rename r)) := by
  have hsets := h.sets
  unfold Chart.trees at hts ⊢
  cases hchart : chart.sets with
  | nil =>
    rw [RenamedSets, hchart, List.map_nil, List.map_eq_nil_iff] at hsets
    rw [hchart] at hts
    obtain rfl := Except.ok.inj hts
    rw [hsets]
    rfl
  | cons set sets =>
    rw [RenamedSets, hchart, List.map_cons, List.map_eq_cons_iff] at hsets
    obtain ⟨set', sets', hchart', hset, -⟩ := hsets
    rw [hchart] at hts
    have hname : ∀ i : Item, decide ((i.rename r).name = topName) = decide (i.name = topName) := by
      intro i
      rw [decide_eq_decide, Item.name_rename]
      exact ⟨fun hi => hr (hi.trans htop.symm), fun hi => by rw [hi, htop]⟩
    have hselected : set'.completed.filter (·.name = topName) =
        (set.completed.filter (·.name = topName)).map (Item.rename r) := by
      simp only [StateSet.completed, hset, List.filter_map, Function.comp_def, Item.isCompleted_rename, hname]
    simp only [hchart', hselected]
    exact mapM_completeTop_rename htop hts

/-- a parse goes through an injective renaming that leaves the top name alone -/
theorem parse_rename_of_top (hr : r.Injective) (htop : r topName = topName) {tokens : List Symbol} {p : Parse}
    (h : parse g tokens limit = .ok p) :
    parse (g.rename r) (tokens.map r) limit = .ok ⟨p.complete, p.trees.map (ParseTree.rename r), p.events⟩ := by
  obtain ⟨s, ts, hs, hts, rfl⟩ := parse_eq_ok_iff.1 h
  have hchart := chartFrom_rename g limit hr htop s tokens 0
  refine parse_eq_ok_iff.2 ⟨r s, _, by rw [start?_rename, hs, Option.map_some], hchart.trees hr htop hts, ?_⟩
  rw [hchart.complete, hchart.events]

/-! ## Tokens that stand in no rule -/

theorem rule_sublist_of_has {start : Symbol} {tokens : List Symbol} {p k : Nat} {i : Item}
    (h : (chartFrom g start limit p tokens).Has k i) : i.rule.Sublist (ruleSymbols g start) := by
  -- what stands before the position `p` does not matter to the chart
  have hdrop : (List.replicate p topName ++ tokens).drop p = tokens := by simp
  exact (arises_of_has tokens p (by simp) hdrop k i h).rule_sublist

theorem scan_eq_nil {start token : Symbol} {tokens : List Symbol} {p : Nat} (h : token ∉ ruleSymbols g start) :
    scan g token (chartFrom g start limit p tokens) = [] := by
  refine List.eq_nil_iff_forall_not_mem.2 fun j hj => ?_
  obtain ⟨-, i, hi, moved⟩ := mem_scan.1 hj
  exact h ((rule_sublist_of_has hi).subset (Item.mem_rule_of_over? moved))

/-- **Tokens that stand in no rule may be exchanged** for other such tokens: no item expects any of them. -/
theorem chartFrom_congr {start : Symbol} {tokens tokens' : List Symbol}
    (h : List.Forall₂ (fun a b => a = b ∨ a ∉ ruleSymbols g start ∧ b ∉ ruleSymbols g start) tokens tokens') :
    ∀ p, chartFrom g start limit p tokens = chartFrom g start limit p tokens' := by
  induction h with
  | nil => exact fun _ => rfl
  | @cons a b tokens tokens' hab _ ih =>
    intro p
    rw [chartFrom, chartFrom, ← ih (p + 1)]
    rcases hab with rfl | ⟨ha, hb⟩
    · rfl
    · rw [scan_eq_nil ha, scan_eq_nil hb]

theorem ruleSymbols_rename (hr : r.Injective) (g : Grammar) (start : Symbol) :
    ruleSymbols (g.rename r) (r start) = (ruleSymbols g start).map r := by
  have halternatives : ∀ s, (g.rename r).alternatives (r s) = (g.alternatives s).map (List.map r) := by
    intro s
    rw [alternatives, alternatives, alternatives?_rename hr]
    cases g.alternatives? s <;> rfl
  simp only [ruleSymbols, List.flatten_cons, List.map_append, List.map_cons, List.map_nil, List.map_flatten,
    names_rename, List.flatMap_map, halternatives, List.map_flatMap]

/-! ## Any renaming -/

/-- the renaming with the names exchanged so that the top name stays -/
def fixTop (r : Symbol → Symbol) (s : Symbol) : Symbol := Equiv.swap (r topName) topName (r s)

theorem fixTop_injective (hr : r.Injective) : (fixTop r).Injective := (Equiv.injective _).comp hr

theorem fixTop_topName (r : Symbol → Symbol) : fixTop r topName = topName := Equiv.swap_apply_left _ _

theorem fixTop_eq (hr : r.Injective) {s : Symbol} (h : r s = topName ↔ s = topName) : fixTop r s = r s := by
  by_cases hs : s = topName
  · rw [h.2 hs, hs]
    exact fixTop_topName r
  · exact Equiv.swap_apply_of_ne_of_ne (fun e => hs (hr e)) fun e => hs (h.1 e)

theorem fixTop_eq_self (htop : r topName = topName) : fixTop r = r := by
  funext s
  rw [fixTop, htop, Equiv.swap_self]
  rfl

/-- the renaming takes the top name in an alternative to itself and nothing else there to it, and no nonterminal to it -/
structure KeepsTop (r : Symbol → Symbol) (g : Grammar) : Prop where
  injective : r.Injective
  names : ∀ s ∈ g.names, r s ≠ topName
  rules : ∀ rule ∈ g.rules, ∀ rhs ∈ rule.alternatives, ∀ s ∈ rhs, (r s = topName ↔ s = topName)

theorem KeepsTop.iff_of_mem_names (h : KeepsTop r g) (hb : g.Built) {s : Symbol} (hs : s ∈ g.names) :
    r s = topName ↔ s = topName :=
  ⟨fun e => absurd e (h.names s hs), fun e => absurd (e ▸ hs) hb.topName_not_mem⟩

theorem KeepsTop.iff_of_mem_ruleSymbols (h : KeepsTop r g) (hb : g.Built) {start s : Symbol} (hstart : start ∈ g.names)
    (hs : s ∈ ruleSymbols g start) : r s = topName ↔ s = topName := by
  rw [ruleSymbols, List.flatten_cons, List.singleton_append, List.mem_cons] at hs
  rcases hs with rfl | hs
  · exact h.iff_of_mem_names hb hstart
  · obtain ⟨rhs, hrhs, hs⟩ := List.mem_flatten.1 hs
    obtain ⟨name, -, hrhs⟩ := List.mem_flatMap.1 hrhs
    obtain ⟨rule, hrule, -, hmem⟩ := exists_rule_of_mem_alternatives hrhs
    exact h.rules rule hrule rhs hmem s hs

theorem KeepsTop.rename_fixTop (h : KeepsTop r g) (hb : g.Built) : g.rename (fixTop r) = g.rename r :=
  Grammar.rename_congr (fun _ hs => fixTop_eq h.injective (h.iff_of_mem_names hb hs))
    fun rule hrule rhs hrhs s hs => fixTop_eq h.injective (h.rules rule hrule rhs hrhs s hs)

/-- the tokens that the two renamings take to different names stand in no rule -/
theorem KeepsTop.tokens (h : KeepsTop r g) (hb : g.Built) {start : Symbol} (hstart : start ∈ g.names)
    (tokens : List Symbol) :
    List.Forall₂ (fun a b => a = b ∨ a ∉ ruleSymbols (g.rename r) (r start) ∧ b ∉ ruleSymbols (g.rename r) (r start))
      (tokens.map (fixTop r)) (tokens.map r) := by
  rw [List.forall₂_map_left_iff, List.forall₂_map_right_iff, List.forall₂_same]
  intro a _
  by_cases ha : r a = topName ↔ a = topName
  · exact Or.inl (fixTop_eq h.injective ha)
  · have hforeign : a ∉ ruleSymbols g start := fun hmem => ha (h.iff_of_mem_ruleSymbols hb hstart hmem)
    rw [ruleSymbols_rename h.injective]
    refine Or.inr ⟨fun hmem => ?_, fun hmem => ?_⟩
    · obtain ⟨b, hb', heq⟩ := List.mem_map.1 hmem
      rw [← fixTop_eq h.injective (h.iff_of_mem_ruleSymbols hb hstart hb')] at heq
      exact hforeign (fixTop_injective h.injective heq ▸ hb')
    · obtain ⟨b, hb', heq⟩ := List.mem_map.1 hmem
      exact hforeign (h.injective heq ▸ hb')

/-- the trees of a parse have no symbols that the two renamings take to different names -/
theorem KeepsTop.trees (h : KeepsTop r g) (hb : g.Built) {s : Symbol} (hs : g.start? = some s) {tokens : List Symbol}
    {p : Parse} (hp : parse g tokens limit = .ok p) :
    p.trees.map (ParseTree.rename (fixTop r)) = p.trees.map (ParseTree.rename r) := by
  by_cases htop : r topName = topName
  · rw [fixTop_eq_self htop]
  · -- the top name is in no alternative, so the trees are derivation trees
    have hfree : g.TopFree := fun rule hrule rhs hrhs hmem => htop ((h.rules rule hrule rhs hrhs _ hmem).2 rfl)
    obtain ⟨q, hq, -, -, hmem⟩ := parse_eq_ok hb hs tokens limit
    obtain rfl : p = q := Except.ok.inj (hp.symm.trans hq)
    refine List.map_congr_left fun t ht => ?_
    have harises := arises_of_has tokens 0 (Nat.zero_le _) rfl 0 _ ((hmem t).1 ht)
    obtain ⟨hderives, -⟩ := derivation_of_top_arises hb hfree (mem_names_of_start? hs) harises
    exact hderives.rename_congr (fun a ha => fixTop_eq h.injective (h.iff_of_mem_names hb ha))
      fun rule hrule rhs hrhs a ha => fixTop_eq h.injective (h.rules rule hrule rhs hrhs a ha)

end

/-- **Symbol names do not matter to the parser**, as long as a renaming keeps the top name apart: it takes no nonterminal
to the top name and, in the alternatives, the top name and nothing else to it. The renamed grammar is again one that can
be built, and it gives the renamed trees for the renamed tokens, in the same order, with the same flag and the same
report on the way. -/
theorem parse_rename {r : Symbol → Symbol} {g : Grammar} {s : Symbol} (hb : g.Built) (hs : g.start? = some s)
    (hr : KeepsTop r g) (tokens : List Symbol) (limit : Int) :
    (g.rename r).Built ∧ ∃ p, parse g tokens limit = .ok p ∧
      parse (g.rename r) (tokens.map r) limit = .ok ⟨p.complete, p.trees.map (ParseTree.rename r), p.events⟩ := by
  obtain ⟨p, hp, -⟩ := parse_eq_ok hb hs tokens limit
  refine ⟨hb.rename hr.injective hr.names, p, hp, ?_⟩
  have hfixed := parse_rename_of_top (fixTop_injective hr.injective) (fixTop_topName r) hp
  rw [hr.rename_fixTop hb, hr.trees hb hs hp] at hfixed
  obtain ⟨s', ts, hs', hts, heq⟩ := parse_eq_ok_iff.1 hfixed
  obtain rfl : r s = s' := by
    rw [start?_rename, hs] at hs'
    exact Option.some.inj hs'
  rw [chartFrom_congr (hr.tokens hb (mem_names_of_start? hs) tokens) 0] at hts heq
  exact parse_eq_ok_iff.2 ⟨r s, ts, hs', hts, heq⟩

/-- a nonterminal and a terminal that exchange their names -/
theorem parse_rename_swapped :
    ambiguousSample.Built ∧ ambiguousSample.start? = some "S" ∧ KeepsTop (Equiv.swap "S" "a") ambiguousSample ∧
      (ambiguousSample.rename (Equiv.swap "S" "a")).Built ∧ ∃ p, parse ambiguousSample ["a"] 100 = .ok p ∧
        parse (ambiguousSample.rename (Equiv.swap "S" "a")) (["a"].map (Equiv.swap "S" "a")) 100 =
          .ok ⟨p.complete, p.trees.map (ParseTree.rename (Equiv.swap "S" "a")), p.events⟩ := by
  have hkeeps : KeepsTop (Equiv.swap "S" "a") ambiguousSample := ⟨Equiv.injective _, by decide, by decide⟩
  exact ⟨built_ambiguousSample, rfl, hkeeps, parse_rename built_ambiguousSample rfl hkeeps ["a"] 100⟩

/-! ## A terminal with the top name -/

/-- a grammar with a terminal that no input here holds -/
def plainSample : Grammar := ⟨[⟨"S", [["T"], ["a"]]⟩]⟩

/-- **A terminal may not be renamed to the top name**: the parse of `a` is complete before and has no end after, although
no two symbols get the same name and no nonterminal gets the reserved one. -/
theorem parse_rename_to_top :
    plainSample.Built ∧ plainSample.start? = some "S" ∧ (Equiv.swap "T" topName : Symbol → Symbol).Injective ∧
      (∀ a ∈ plainSample.names, Equiv.swap "T" topName a ≠ topName) ∧
      (∃ p, parse plainSample ["a"] 5 = .ok p ∧ p.complete = true) ∧
      ∃ p, parse (plainSample.rename (Equiv.swap "T" topName)) (["a"].map (Equiv.swap "T" topName)) 5 = .ok p ∧
        p.complete = false := by
  have hb : plainSample.Built := ⟨[("S", ["T"]), ("S", ["a"])], by rfl⟩
  have hnames : ∀ a ∈ plainSample.names, Equiv.swap "T" topName a ≠ topName := by decide
  have hrenamed : plainSample.rename (Equiv.swap "T" topName) = ⟨[⟨"S", [[topName], ["a"]]⟩]⟩ := by rfl
  have htokens : ["a"].map (Equiv.swap "T" topName) = ["a"] := by rfl
  refine ⟨hb, rfl, Equiv.injective _, hnames, ?_, ?_⟩
  · obtain ⟨p, hp, hcomplete, -⟩ := parse_eq_ok hb rfl ["a"] 5
    refine ⟨p, hp, hcomplete.trans ?_⟩
    open Evaluation in simp [plainSample]
  · rw [hrenamed, htokens]
    have hb' : (⟨[⟨"S", [[topName], ["a"]]⟩]⟩ : Grammar).Built := ⟨[("S", [topName]), ("S", ["a"])], by rfl⟩
    obtain ⟨p, hp, hcomplete, -⟩ := parse_eq_ok hb' rfl ["a"] 5
    refine ⟨p, hp, hcomplete.trans ?_⟩
    open Evaluation in simp

end GrammarLab.Chart
