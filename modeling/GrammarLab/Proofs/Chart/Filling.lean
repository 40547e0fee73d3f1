/-
How a state set is filled: the invariants of the queue.

`explore_induction` is the one induction over the work at a position: whatever is kept when a known item is dropped and
when a new one is taken holds of the front at which the work stops, and the queue is empty there unless the set was given
up. Two invariants go through it.
- `Front.Sound`: every item in the set or in the queue arises at the position, and every empty tree is that of a completed
  item. This holds also of a set that was given up.
- `Front.Saturated`: whatever follows from the items of the set is in the set or in the queue. An advance over an empty
  tree is found by the later of its two causes, the completed item and the one that asks for it.
-/
import GrammarLab.Proofs.Chart.Arising

namespace GrammarLab.Chart

/-! ## The items of a front -/

/-- the item is in the set or waits for it -/
def Front.Knows (front : Front) (i : Item) : Prop := i ∈ front.set.items ∨ i ∈ front.queue.toList

theorem Front.knows_start (items : List Item) (i : Item) : (Front.start items).Knows i ↔ i ∈ items := by
  simp [Front.Knows, Front.start, StateSet.empty]

theorem waitingFor_here (position : Nat) (set : StateSet) (later : List StateSet) :
    waitingFor position set later position = set.items := if_pos rfl

theorem mem_waitingFor_later {position finish : Nat} {set : StateSet} {later : List StateSet} {i : Item}
    (h : finish ≠ position) :
    i ∈ waitingFor position set later finish ↔
      ∃ s : StateSet, later[finish - position - 1]? = some s ∧ i ∈ s.items := by
  rw [waitingFor, if_neg h]
  cases hs : later[finish - position - 1]? with
  | none => simp
  | some s => simp

section

variable {g : Grammar} {position : Nat} {later : List StateSet} {set : StateSet} {empties : List ParseTree}
  {item j : Item}

theorem mem_consequences_completed (h : item.isCompleted = true) :
    j ∈ consequences g position later set empties item ↔
      ∃ prev ∈ waitingFor position set later item.finish, prev.over? item.name item.tree = some j := by
  rw [consequences, Item.isCompleted_iff.1 h]
  exact List.mem_filterMap

theorem mem_consequences_expecting {s : Symbol} {more : List Symbol} (h : item.pending = s :: more) :
    j ∈ consequences g position later set empties item ↔
      s ∈ g.names ∧ ((∃ rhs ∈ g.alternatives s, j = .predict s rhs position) ∨
        ∃ t ∈ empties, t.nonTerminal? = some s ∧ item.over? s t = some j) := by
  by_cases hs : s ∈ g.names
  · simp only [consequences, h, Grammar.alternatives?_of_mem_names hs, List.mem_append, List.mem_map,
      List.mem_filterMap, List.mem_filter, decide_eq_true_eq, hs, true_and, eq_comm (a := j), and_assoc]
  · simp [consequences, h, (Grammar.alternatives?_eq_none_iff g s).2 hs, hs]

end

/-! ## One item of the queue -/

section

variable {g : Grammar} {position : Nat} {later : List StateSet} {limit : Int} {set : StateSet} {empties : List ParseTree}

theorem explore_of_pop?_eq_none (front : Front) (h : front.queue.pop? = none) :
    explore g position later limit front = (front.set, none) := by
  rw [explore]
  split
  · rfl
  · rename_i hsome
    rw [h] at hsome
    cases hsome

theorem explore_of_pop?_eq_some (front : Front) {item : Item} {queue : Queue Item}
    (h : front.queue.pop? = some (item, queue)) :
    explore g position later limit front =
      if limit < front.set.size then (front.set, some (queue.size + 1))
      else if item ∈ front.set then explore g position later limit { front with queue }
      else explore g position later limit (Front.take g position later { front with queue } item) := by
  rw [explore]
  split
  · rename_i hnone
    rw [h] at hnone
    cases hnone
  · rename_i next rest hsome
    obtain ⟨rfl, rfl⟩ : item = next ∧ queue = rest := by simpa [h] using hsome
    rfl

theorem explore_nil : explore g position later limit ⟨set, ⟨[], []⟩, empties⟩ = (set, none) :=
  explore_of_pop?_eq_none _ rfl

theorem explore_cons (item : Item) (front back : List Item) :
    explore g position later limit ⟨set, ⟨item :: front, back⟩, empties⟩ =
      if limit < set.items.length then (set, some (front.length + back.length + 1))
      else if item ∈ set.items then explore g position later limit ⟨set, ⟨front, back⟩, empties⟩
      else explore g position later limit (Front.take g position later ⟨set, ⟨front, back⟩, empties⟩ item) := by
  rw [explore_of_pop?_eq_some _ rfl]
  congr

theorem explore_back (item : Item) (back : List Item) :
    explore g position later limit ⟨set, ⟨[], item :: back⟩, empties⟩ =
      explore g position later limit ⟨set, ⟨(item :: back).reverse, []⟩, empties⟩ := by
  obtain ⟨first, rest, hback⟩ := List.exists_cons_of_ne_nil (List.reverse_ne_nil_iff.2 (List.cons_ne_nil item back))
  have hpop : (Queue.mk [] (item :: back)).pop? = some (first, ⟨rest, []⟩) := by simp [Queue.pop?, hback]
  rw [hback, explore_of_pop?_eq_some _ hpop, explore_of_pop?_eq_some ⟨set, ⟨first :: rest, []⟩, empties⟩ rfl]

end

/-! ## Charts worked out

With these equations `simp` works out the chart of given tokens, turn by turn: the queue of every position is brought to
its first item, and whether an item is known is asked of the list and not of the index. -/

namespace Evaluation

attribute [scoped simp] explore_nil explore_cons explore_back chartFrom extend scan consequences waitingFor Front.start
  Front.take Queue.ofList Queue.pushAll StateSet.empty StateSet.push Item.predict Item.over? Item.isCompleted Item.tree
  ParseTree.nonTerminal? Grammar.isTerminal Grammar.isNonTerminal Grammar.alternatives? topName List.filterMap_cons

end Evaluation

/-! ## Induction over the work at a position -/

section

variable {g : Grammar} {position : Nat} {later : List StateSet} {limit : Int}

/-- what is kept by dropping a known item and by taking a new one holds where the work stops -/
theorem explore_induction {Inv : Front → Prop}
    (skip : ∀ front item queue, front.queue.pop? = some (item, queue) → item ∈ front.set → Inv front →
      Inv { front with queue })
    (take : ∀ front item queue, front.queue.pop? = some (item, queue) → ¬ limit < front.set.size → item ∉ front.set →
      Inv front → Inv (Front.take g position later { front with queue } item))
    (front : Front) (h : Inv front) :
    ∃ last : Front, Inv last ∧ (explore g position later limit front).1 = last.set ∧
      ((explore g position later limit front).2 = none → last.queue.toList = []) := by
  fun_induction explore g position later limit front with
  | case1 front hpop => exact ⟨front, h, rfl, fun _ => Queue.toList_of_pop?_eq_none hpop⟩
  | case2 front item queue hpop hfull => exact ⟨front, h, rfl, fun hnone => by cases hnone⟩
  | case3 front item queue hpop _ hmem ih => exact ih (skip front item queue hpop hmem h)
  | case4 front item queue hpop hroom hmem ih => exact ih (take front item queue hpop hroom hmem h)

theorem Front.knows_of_pop {front : Front} {item : Item} {queue : Queue Item}
    (hpop : front.queue.pop? = some (item, queue)) (i : Item) :
    front.Knows i ↔ i = item ∨ ({ front with queue } : Front).Knows i := by
  simp only [Front.Knows, Queue.toList_of_pop?_eq_some hpop, List.mem_cons]
  tauto

theorem Front.knows_take {front : Front} {item : Item} {queue : Queue Item}
    (hpop : front.queue.pop? = some (item, queue)) (i : Item) :
    (Front.take g position later { front with queue } item).Knows i ↔
      front.Knows i ∨ i ∈ consequences g position later (front.set.push item) front.empties item := by
  rw [Front.knows_of_pop hpop]
  simp only [Front.Knows, Front.take, StateSet.push, Queue.toList_pushAll, List.mem_append, List.mem_singleton]
  tauto

theorem Front.mem_set_take {front : Front} {queue : Queue Item} {item i : Item} :
    i ∈ (Front.take g position later { front with queue } item).set.items ↔ i ∈ front.set.items ∨ i = item := by
  simp [Front.take, StateSet.push]

theorem Front.mem_empties_take {front : Front} {queue : Queue Item} {item : Item} {t : ParseTree} :
    t ∈ (Front.take g position later { front with queue } item).empties ↔
      t ∈ front.empties ∨ item.isCompleted = true ∧ item.finish = position ∧ t = item.tree := by
  simp only [Front.take]
  split_ifs with h
  · simp [h]
  · tauto

/-- no item is in a state set twice -/
theorem nodup_explore (front : Front) (h : front.set.items.Nodup) :
    (explore g position later limit front).1.items.Nodup := by
  obtain ⟨last, hlast, heq, -⟩ := @explore_induction g position later limit
    (fun front => front.set.items.Nodup) (fun _ _ _ _ _ h => h)
    (fun front item queue _ _ hmem h => List.nodup_append.2 ⟨h, List.nodup_singleton _, fun a ha b hb => by
      rw [List.mem_singleton.1 hb]
      exact fun e => hmem (e ▸ ha)⟩) front h
  rw [heq]
  exact hlast

end

/-! ## Everything found arises -/

section

variable {g : Grammar} {start : Symbol} {tokens : List Symbol} {position : Nat} {later : List StateSet} {limit : Int}

/-- what is known arises at the position, and so does a completed item for every empty tree -/
structure Front.Sound (g : Grammar) (start : Symbol) (tokens : List Symbol) (position : Nat) (front : Front) : Prop where
  known : ∀ i, front.Knows i → Arises g start tokens position i
  empties : ∀ t ∈ front.empties, ∃ i, Arises g start tokens position i ∧ i.isCompleted = true ∧ i.finish = position ∧
    t = i.tree

/-- the sets of the positions after `position` hold items that arise there -/
def LaterSound (g : Grammar) (start : Symbol) (tokens : List Symbol) (position : Nat) (later : List StateSet) : Prop :=
  ∀ k s, later[k]? = some s → ∀ i ∈ s.items, Arises g start tokens (position + 1 + k) i

theorem Front.Sound.consequences {front : Front} (h : front.Sound g start tokens position)
    (hlater : LaterSound g start tokens position later) {item j : Item} (hitem : Arises g start tokens position item)
    (hj : j ∈ consequences g position later (front.set.push item) front.empties item) :
    Arises g start tokens position j := by
  cases hpending : item.pending with
  | nil =>
    have hdone := Item.isCompleted_iff.2 hpending
    obtain ⟨prev, hprev, moved⟩ := (mem_consequences_completed hdone).1 hj
    have hle := hitem.le_finish
    refine .complete hitem hdone ?_ moved
    by_cases hfin : item.finish = position
    · rw [hfin, waitingFor_here] at hprev
      rw [hfin]
      rcases List.mem_append.1 hprev with hprev | hprev
      · exact h.known prev (Or.inl hprev)
      · rw [List.mem_singleton.1 hprev]
        exact hitem
    · obtain ⟨s, hs, hmem⟩ := (mem_waitingFor_later hfin).1 hprev
      have := hlater _ s hs prev hmem
      rwa [show position + 1 + (item.finish - position - 1) = item.finish by omega] at this
  | cons s more =>
    obtain ⟨-, ⟨rhs, hrhs, rfl⟩ | ⟨t, ht, hroot, moved⟩⟩ := (mem_consequences_expecting hpending).1 hj
    · exact .predict hitem hpending hrhs
    · obtain ⟨i, hi, hdone, hfin, rfl⟩ := h.empties t ht
      obtain rfl : i.name = s := Option.some.inj hroot
      exact .complete hi hdone (hfin.symm ▸ hitem) moved

theorem Front.Sound.take {front : Front} (h : front.Sound g start tokens position)
    (hlater : LaterSound g start tokens position later) {item : Item} {queue : Queue Item}
    (hpop : front.queue.pop? = some (item, queue)) :
    (Front.take g position later { front with queue } item).Sound g start tokens position := by
  have hitem := h.known item ((Front.knows_of_pop hpop item).2 (Or.inl rfl))
  refine ⟨fun i hi => ?_, fun t ht => ?_⟩
  · rcases (Front.knows_take hpop i).1 hi with hi | hi
    · exact h.known i hi
    · exact h.consequences hlater hitem hi
  · rcases Front.mem_empties_take.1 ht with ht | ⟨hdone, hfin, rfl⟩
    · exact h.empties t ht
    · exact ⟨item, hitem, hdone, hfin, rfl⟩

theorem Front.Sound.skip {front : Front} (h : front.Sound g start tokens position) {item : Item} {queue : Queue Item}
    (hpop : front.queue.pop? = some (item, queue)) : ({ front with queue } : Front).Sound g start tokens position :=
  ⟨fun i hi => h.known i ((Front.knows_of_pop hpop i).2 (Or.inr hi)), h.empties⟩

theorem Front.sound_start {items : List Item} (h : ∀ i ∈ items, Arises g start tokens position i) :
    (Front.start items).Sound g start tokens position :=
  ⟨fun i hi => h i ((Front.knows_start items i).1 hi), by simp [Front.start]⟩

/-- every item of a filled set arises, whether or not the set was given up -/
theorem arises_of_mem_explore (hlater : LaterSound g start tokens position later) {items : List Item}
    (h : ∀ i ∈ items, Arises g start tokens position i) :
    ∀ i ∈ (explore g position later limit (.start items)).1.items, Arises g start tokens position i := by
  obtain ⟨last, hlast, heq, -⟩ := @explore_induction g position later limit
    (fun front => front.Sound g start tokens position) (fun _ _ _ hpop _ h => h.skip hpop)
    (fun _ _ _ hpop _ _ h => h.take hlater hpop) (.start items) (Front.sound_start h)
  rw [heq]
  exact fun i hi => hlast.known i (Or.inl hi)

/-! ## Nothing is missed -/

/-- whatever follows from the items of the set is known -/
structure Front.Saturated (g : Grammar) (position : Nat) (later : List StateSet) (items : List Item) (front : Front) :
    Prop where
  initial : ∀ i ∈ items, front.Knows i
  empties : ∀ i ∈ front.set.items, i.isCompleted = true → i.finish = position → i.tree ∈ front.empties
  predicted : ∀ i ∈ front.set.items, ∀ s more, i.pending = s :: more → ∀ rhs ∈ g.alternatives s,
    front.Knows (.predict s rhs position)
  here : ∀ i ∈ front.set.items, i.isCompleted = true → i.finish = position → ∀ prev ∈ front.set.items, ∀ j,
    prev.over? i.name i.tree = some j → front.Knows j
  later : ∀ i ∈ front.set.items, i.isCompleted = true → i.finish ≠ position →
    ∀ s : StateSet, later[i.finish - position - 1]? = some s → ∀ prev ∈ s.items, ∀ j,
    prev.over? i.name i.tree = some j → front.Knows j

theorem Front.saturated_start (items : List Item) : (Front.start items).Saturated g position later items := by
  refine ⟨fun i hi => (Front.knows_start items i).2 hi, ?_, ?_, ?_, ?_⟩ <;>
    exact fun i hi => absurd hi (by simp [Front.start, StateSet.empty])

theorem Front.Saturated.skip {items : List Item} {front : Front} (h : front.Saturated g position later items)
    {item : Item} {queue : Queue Item} (hpop : front.queue.pop? = some (item, queue)) (hmem : item ∈ front.set) :
    ({ front with queue } : Front).Saturated g position later items := by
  have hknows : ∀ i, front.Knows i → ({ front with queue } : Front).Knows i := by
    intro i hi
    rcases (Front.knows_of_pop hpop i).1 hi with rfl | hi
    · exact Or.inl hmem
    · exact hi
  exact ⟨fun i hi => hknows i (h.initial i hi), h.empties,
    fun i hi s more hp rhs hr => hknows _ (h.predicted i hi s more hp rhs hr),
    fun i hi hd hf prev hprev j hj => hknows j (h.here i hi hd hf prev hprev j hj),
    fun i hi hd hf s hs prev hprev j hj => hknows j (h.later i hi hd hf s hs prev hprev j hj)⟩

theorem Front.Saturated.take {items : List Item} {front : Front} (h : front.Saturated g position later items)
    (hnames : ∀ i prev j, front.Knows i → front.Knows prev → prev.over? i.name i.tree = some j → i.name ∈ g.names)
    {item : Item} {queue : Queue Item} (hpop : front.queue.pop? = some (item, queue)) :
    (Front.take g position later { front with queue } item).Saturated g position later items := by
  have hitem : front.Knows item := (Front.knows_of_pop hpop item).2 (Or.inl rfl)
  have hold : ∀ i, front.Knows i → (Front.take g position later { front with queue } item).Knows i :=
    fun i hi => (Front.knows_take hpop i).2 (Or.inl hi)
  have hnew : ∀ i, i ∈ consequences g position later (front.set.push item) front.empties item →
      (Front.take g position later { front with queue } item).Knows i :=
    fun i hi => (Front.knows_take hpop i).2 (Or.inr hi)
  refine ⟨fun i hi => hold i (h.initial i hi), ?_, ?_, ?_, ?_⟩
  · intro i hi hdone hfin
    rcases Front.mem_set_take.1 hi with hi | rfl
    · exact Front.mem_empties_take.2 (Or.inl (h.empties i hi hdone hfin))
    · exact Front.mem_empties_take.2 (Or.inr ⟨hdone, hfin, rfl⟩)
  · intro i hi s more hpending rhs hrhs
    rcases Front.mem_set_take.1 hi with hi | rfl
    · exact hold _ (h.predicted i hi s more hpending rhs hrhs)
    · exact hnew _ ((mem_consequences_expecting hpending).2
        ⟨Grammar.mem_names_of_mem_alternatives hrhs, Or.inl ⟨rhs, hrhs, rfl⟩⟩)
  · intro i hi hdone hfin prev hprev j moved
    rcases Front.mem_set_take.1 hi with known | rfl
    · rcases Front.mem_set_take.1 hprev with waiting | rfl
      · exact hold j (h.here i known hdone hfin prev waiting j moved)
      · -- the empty tree came first: the item that asks for it finds it among the empty trees
        obtain ⟨rest, hrest, -⟩ := Item.over?_eq_some_iff.1 moved
        exact hnew j ((mem_consequences_expecting hrest).2
          ⟨hnames i prev j (Or.inl known) hitem moved, Or.inr ⟨i.tree, h.empties i known hdone hfin, rfl, moved⟩⟩)
    · -- the item that asks came first, or is the completed item itself: the completed item finds it in the set
      refine hnew j ((mem_consequences_completed hdone).2 ⟨prev, ?_, moved⟩)
      rw [hfin, waitingFor_here]
      exact hprev
  · intro i hi hdone hfin s hs prev hprev j moved
    rcases Front.mem_set_take.1 hi with hi | rfl
    · exact hold j (h.later i hi hdone hfin s hs prev hprev j moved)
    · exact hnew j ((mem_consequences_completed hdone).2 ⟨prev, (mem_waitingFor_later hfin).2 ⟨s, hs, hprev⟩, moved⟩)

/-- a set that was not given up is closed under the rules of the chart -/
theorem saturated_explore (hb : g.Built) (htop : g.TopFree) (hs : start ∈ g.names)
    (hlater : LaterSound g start tokens position later) {items : List Item}
    (h : ∀ i ∈ items, Arises g start tokens position i)
    (hdone : (explore g position later limit (.start items)).2 = none) :
    ∃ last : Front, last.Saturated g position later items ∧
      (explore g position later limit (.start items)).1 = last.set ∧ ∀ i, last.Knows i → i ∈ last.set.items := by
  obtain ⟨last, ⟨-, hsat⟩, heq, hempty⟩ := @explore_induction g position later limit
    (fun front => front.Sound g start tokens position ∧ front.Saturated g position later items)
    (fun _ _ _ hpop hmem h => ⟨h.1.skip hpop, h.2.skip hpop hmem⟩)
    (fun front _ _ hpop _ _ h => ⟨h.1.take hlater hpop, h.2.take (fun i prev j hi hprev moved =>
      (h.1.known i hi).name_mem_names (h.1.known prev hprev) moved hb htop hs) hpop⟩)
    (.start items) ⟨Front.sound_start h, Front.saturated_start items⟩
  refine ⟨last, hsat, heq, fun i hi => ?_⟩
  rcases hi with hi | hi
  · exact hi
  · rw [hempty hdone] at hi
    exact absurd hi List.not_mem_nil

end

end GrammarLab.Chart
