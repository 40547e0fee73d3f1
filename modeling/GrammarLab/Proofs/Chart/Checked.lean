/-
A parse in which every demand is checked.

The parser moves an item only over a symbol that it expects, asks only completed items for their trees and only
nonterminals for their alternatives, and looks only into state sets that there are. `Checked` is the same work with each
of these demands made and checked on the spot, and with a bound on the turns of the queue at a position, so it fails where
a demand does not hold or the turns run out.
- `Checked.take_eq`: no demand fails when an item is taken, if the positions where known items end have state sets;
- `Checked.exists_turns_chartFrom`: so with enough turns the checked work is the work of the parser, position by position;
- `parse_within_limit`: a parse ends without any failed demand, no state set passes the limit by more than one item, and
  there are at most half as many trees.
-/
import GrammarLab.Proofs.Chart.Limit

namespace GrammarLab.Chart

/-- what can go wrong on the way to a parse -/
inductive Mishap where
  | item (reason : ItemError)
  | grammar (reason : GrammarError)
  /-- there is no state set for the position -/
  | noSet (position : Nat)
  /-- the work at a position took more turns than it was given -/
  | turns

namespace Checked

/-- the items that expect `s`, each moved over it by a demand -/
def advanceAll (s : Symbol) (tree : ParseTree) (items : List Item) : Except Mishap (List Item) :=
  (items.filter (·.expects s)).mapM fun i => (i.advance tree).mapError .item

/-- the items of the set where a completed item ends, which must be there -/
def waitingFor (position : Nat) (set : StateSet) (later : List StateSet) (finish : Nat) : Except Mishap (List Item) :=
  if finish = position then .ok set.items
  else if finish < position then .error (.noSet finish)
  else match later[finish - position - 1]? with
    | some s => .ok s.items
    | none => .error (.noSet finish)

/-- the front with `item` taken into the set and all that follows from it in the queue -/
def take (g : Grammar) (position : Nat) (later : List StateSet) (front : Front) (item : Item) : Except Mishap Front := do
  let set := front.set.push item
  if item.isCompleted then
    let tree ← item.complete.mapError .item
    let empties := if item.finish = position then front.empties ++ [tree] else front.empties
    let waiting ← waitingFor position set later item.finish
    let more ← advanceAll item.name tree waiting
    return ⟨set, front.queue.pushAll more, empties⟩
  else
    let s ← item.current.mapError .item
    if g.isNonTerminal s then
      let alternatives ← (g.expansions s).mapError .grammar
      let predicted := alternatives.map fun rhs => Item.predict s rhs position
      let moved ← (front.empties.filter fun t => t.nonTerminal? = some s).mapM fun t => (item.advance t).mapError .item
      return ⟨set, front.queue.pushAll (predicted ++ moved), front.empties⟩
    else return ⟨set, front.queue.pushAll [], front.empties⟩

/-- work through the queue in at most the given number of turns -/
def explore (g : Grammar) (position : Nat) (later : List StateSet) (limit : Int) :
    Nat → Front → Except Mishap (StateSet × Option Nat)
  | 0, _ => .error .turns
  | turns + 1, front =>
    match front.queue.pop? with
    | none => .ok (front.set, none)
    | some (item, queue) =>
      if limit < front.set.size then .ok (front.set, some (queue.size + 1))
      else if item ∈ front.set then explore g position later limit turns { front with queue }
      else do
        let next ← take g position later { front with queue } item
        explore g position later limit turns next

/-- the chart with one more position in front, of which the work came to the given end -/
def close (limit : Int) (position : Nat) (chart : Chart) : StateSet × Option Nat → Chart
  | (set, none) => ⟨set :: chart.sets, chart.events ++ [.stateSet position set.size], chart.complete⟩
  | (set, some waiting) =>
    ⟨set :: chart.sets,
      chart.events ++ [.stateSetFull position limit waiting, .stateSet position set.size], false⟩

/-- the items of the next position, which must be there, that expect the token, moved over it -/
def scan (g : Grammar) (position : Nat) (token : Symbol) (chart : Chart) : Except Mishap (List Item) :=
  if g.isTerminal token then
    match chart.sets with
    | [] => .error (.noSet (position + 1))
    | set :: _ => advanceAll token (.leaf token) set.items
  else .ok []

/-- the chart of the tokens that stand from `position` on -/
def chartFrom (turns : Nat) (g : Grammar) (start : Symbol) (limit : Int) : Nat → List Symbol → Except Mishap Chart
  | position, [] => do
    let work ← explore g position [] limit turns (.start [Item.predict topName [start] position])
    return close limit position ⟨[], [], true⟩ work
  | position, token :: tokens => do
    let chart ← chartFrom turns g start limit (position + 1) tokens
    let items ← scan g position token chart
    let work ← explore g position chart.sets limit turns (.start items)
    return close limit position chart work

/-- the trees that derive the tokens from the start symbol, found in at most so many turns at each position -/
def parse (turns : Nat) (g : Grammar) (tokens : List Symbol) (limit : Int) : Except Mishap Parse := do
  let start ← g.start.mapError .grammar
  let chart ← chartFrom turns g start limit 0 tokens
  let trees ← chart.trees.mapError .item
  return ⟨chart.complete, trees, chart.events⟩

/-! ## No demand fails -/

section

attribute [local simp] bind Except.bind pure Except.pure

theorem advanceAll_eq (s : Symbol) (tree : ParseTree) (items : List Item) :
    advanceAll s tree items = .ok (items.filterMap (Item.over? s tree)) := by
  unfold advanceAll
  induction items with
  | nil => rfl
  | cons i items ih =>
    cases hpending : i.pending with
    | nil => simpa [Item.expects, Item.over?, hpending] using ih
    | cons p rest =>
      by_cases hp : p = s
      · have hfilter : (i :: items).filter (·.expects s) = i :: items.filter (·.expects s) :=
          List.filter_cons_of_pos (by simp [Item.expects, hpending, hp])
        rw [hfilter, List.mapM_cons, ih]
        simp [Item.advance, Item.over?, hpending, hp, Except.mapError]
      · simpa [Item.expects, Item.over?, hpending, hp] using ih

/-- an item that expects `s` can be moved over every tree -/
theorem mapM_advance {item : Item} {s : Symbol} {more : List Symbol} (h : item.pending = s :: more)
    (ts : List ParseTree) :
    (ts.mapM fun t => (item.advance t).mapError Mishap.item) = .ok (ts.filterMap fun t => item.over? s t) := by
  induction ts with
  | nil => rfl
  | cons t ts ih =>
    rw [List.mapM_cons, ih]
    simp [Item.advance, Item.over?, h, Except.mapError]

theorem waitingFor_eq {position finish : Nat} {set : StateSet} {later : List StateSet} (h : position ≤ finish)
    (hlast : finish ≤ position + later.length) :
    waitingFor position set later finish = .ok (Chart.waitingFor position set later finish) := by
  unfold waitingFor Chart.waitingFor
  by_cases hfinish : finish = position
  · rw [if_pos hfinish, if_pos hfinish]
  · have hlt : finish - position - 1 < later.length := by omega
    rw [if_neg hfinish, if_neg hfinish, if_neg (by omega), List.getElem?_eq_getElem hlt]
    rfl

/-- **No demand fails when an item is taken** that ends where there is a state set. -/
theorem take_eq {g : Grammar} {position : Nat} {later : List StateSet} (front : Front) {item : Item} (h : position ≤ item.finish)
    (hlast : item.finish ≤ position + later.length) :
    take g position later front item = .ok (Front.take g position later front item) := by
  cases hpending : item.pending with
  | nil =>
    have hdone : item.isCompleted = true := Item.isCompleted_iff.2 hpending
    have hcomplete : item.complete.mapError Mishap.item = .ok item.tree := by
      simp [Item.complete, hdone, Except.mapError]
    simp [take, Front.take, consequences, hdone, hcomplete, hpending, waitingFor_eq h hlast, advanceAll_eq]
  | cons s more =>
    have hdone : item.isCompleted = false := by simp [Item.isCompleted, hpending]
    have hcurrent : item.current.mapError Mishap.item = .ok s := by simp [Item.current, hpending, Except.mapError]
    by_cases hs : s ∈ g.names
    · have halternatives := Grammar.alternatives?_of_mem_names hs
      have hexpansions : (g.expansions s).mapError Mishap.grammar = .ok (g.alternatives s) := by
        simp [Grammar.expansions, halternatives, Except.mapError]
      simp [take, Front.take, consequences, hdone, hcurrent, hpending, hexpansions, halternatives,
        (Grammar.isNonTerminal_iff g s).2 hs, mapM_advance hpending]
    · have hterminal : ¬ g.isNonTerminal s = true := fun hname => hs ((Grammar.isNonTerminal_iff g s).1 hname)
      simp [take, Front.take, consequences, hdone, hcurrent, hpending, (Grammar.alternatives?_eq_none_iff g s).2 hs,
        hterminal]

end

/-! ## The turns suffice -/

variable {g : Grammar} {start : Symbol} {tokens : List Symbol} {position : Nat} {later : List StateSet} {limit : Int}

/-- one turn and the work after it: if turns suffice for that, they suffice for both -/
theorem exists_turns_succ {after whole : Nat → Prop} (h : ∃ turns, ∀ n, turns ≤ n → after n)
    (turn : ∀ n, after n → whole (n + 1)) : ∃ turns, ∀ n, turns ≤ n → whole n := by
  obtain ⟨turns, hturns⟩ := h
  refine ⟨turns + 1, fun n hn => ?_⟩
  obtain ⟨m, rfl⟩ := Nat.exists_eq_add_of_le' (Nat.le_of_add_left_le hn)
  exact turn m (hturns m (Nat.le_of_add_le_add_right hn))

/-- with enough turns the checked work at a position is the work of the parser; every known item arises, so it ends where
there is a state set -/
theorem exists_turns_explore (hlater : LaterSound g start tokens position later)
    (hlength : position + later.length = tokens.length) (front : Front) (h : front.Sound g start tokens position) :
    ∃ turns, ∀ n, turns ≤ n →
      explore g position later limit n front = .ok (Chart.explore g position later limit front) := by
  have hnone : ∃ turns : Nat, ∀ n, turns ≤ n → True := ⟨0, fun _ _ => trivial⟩
  fun_induction Chart.explore g position later limit front with
  | case1 front hpop =>
    refine exists_turns_succ hnone fun n _ => ?_
    simp only [explore, hpop]
  | case2 front item queue hpop hfull =>
    refine exists_turns_succ hnone fun n _ => ?_
    simp only [explore, hpop, if_pos hfull]
  | case3 front item queue hpop hroom hmem ih =>
    refine exists_turns_succ (ih (h.skip hpop)) fun n hrest => ?_
    simp only [explore, hpop, if_neg hroom, if_pos hmem]
    exact hrest
  | case4 front item queue hpop hroom hmem ih =>
    have hitem : Arises g start tokens position item := h.known item ((Front.knows_of_pop hpop item).2 (Or.inl rfl))
    have htake : take g position later { front with queue } item = .ok _ :=
      take_eq _ hitem.le_finish (hlength ▸ hitem.finish_le)
    refine exists_turns_succ (ih (h.take hlater hpop)) fun n hrest => ?_
    simp only [explore, hpop, if_neg hroom, if_neg hmem, htake]
    exact hrest

theorem extend_eq_close (chart : Chart) (items : List Item) :
    chart.extend g limit position items =
      close limit position chart (Chart.explore g position chart.sets limit (.start items)) := by
  unfold Chart.extend
  rcases Chart.explore g position chart.sets limit (.start items) with ⟨set, _ | waiting⟩ <;> rfl

theorem scan_eq {token : Symbol} {chart : Chart} (h : chart.sets ≠ []) :
    scan g position token chart = .ok (Chart.scan g token chart) := by
  unfold scan Chart.scan
  split_ifs with hterminal
  · cases hsets : chart.sets with
    | nil => exact absurd hsets h
    | cons set sets => exact advanceAll_eq token (.leaf token) set.items
  · rfl

/-- **With enough turns at each position the checked chart is the chart of the parser.** -/
theorem exists_turns_chartFrom (rest : List Symbol) :
    ∀ p, p ≤ tokens.length → tokens.drop p = rest →
      ∃ turns, ∀ n, turns ≤ n →
        chartFrom n g start limit p rest = .ok (Chart.chartFrom g start limit p rest) := by
  induction rest with
  | nil =>
    intro p hp hdrop
    obtain rfl : p = tokens.length := Nat.le_antisymm hp (List.drop_eq_nil_iff.1 hdrop)
    obtain ⟨turns, hturns⟩ := @exists_turns_explore g start tokens tokens.length [] limit (laterSound_nil _) rfl
      (.start [Item.predict topName [start] tokens.length]) (Front.sound_start arises_of_mem_initial)
    refine ⟨turns, fun n hn => ?_⟩
    rw [chartFrom, hturns n hn, Chart.chartFrom, extend_eq_close]
    rfl
  | cons a rest ih =>
    intro p hp hdrop
    obtain ⟨htoken, hrest, hlen⟩ := getElem?_of_drop_eq_cons hdrop
    obtain ⟨before, hbefore⟩ := ih (p + 1) hlen hrest
    set chart := Chart.chartFrom g start limit (p + 1) rest with hchart
    have hlater : ∀ k i, chart.Has k i → Arises g start tokens (p + 1 + k) i := arises_of_has rest (p + 1) hlen hrest
    have hlength : p + chart.sets.length = tokens.length := by
      have hdropped := congrArg List.length hdrop
      rw [List.length_drop, List.length_cons] at hdropped
      rw [hchart, length_sets]
      omega
    obtain ⟨turns, hturns⟩ := @exists_turns_explore g start tokens p chart.sets limit (laterSound_iff.2 hlater) hlength
      (.start (Chart.scan g a chart)) (Front.sound_start (arises_of_mem_scan htoken (hlater 0)))
    have hsets : chart.sets ≠ [] := List.ne_nil_of_length_pos (by omega)
    refine ⟨max before turns, fun n hn => ?_⟩
    have hwork := hturns n (Nat.le_trans (Nat.le_max_right _ _) hn)
    rw [chartFrom, hbefore n (Nat.le_trans (Nat.le_max_left _ _) hn), Chart.chartFrom, ← hchart, extend_eq_close]
    simp only [bind, Except.bind, scan_eq hsets, hwork]
    rfl

/-- with enough turns a checked parse returns what the parser returns -/
theorem exists_turns_parse {p : Parse} (hp : Chart.parse g tokens limit = .ok p) :
    ∃ turns, ∀ n, turns ≤ n → parse n g tokens limit = .ok p := by
  obtain ⟨s, ts, hs, hts, rfl⟩ := parse_eq_ok_iff.1 hp
  obtain ⟨turns, hturns⟩ := @exists_turns_chartFrom g s tokens limit tokens 0 (Nat.zero_le _) rfl
  refine ⟨turns, fun n hn => ?_⟩
  simp only [parse, Grammar.start_eq_ok hs, hturns n hn, hts, Except.mapError, bind, Except.bind]
  rfl

end Checked

/-! ## The limits of a parse -/

/-- **A parse always returns, within its limit.** With a built grammar that is not empty, cyclic or not and whatever the
names of its terminals, with any tokens and any limit: with enough turns at each position the work ends, and no demand
made on the way fails. There is a state set for every token and one for the end, none of them with more than one item
beyond the limit, and at most half as many trees as that. -/
theorem parse_within_limit {g : Grammar} {s : Symbol} (hb : g.Built) (hs : g.start? = some s) (tokens : List Symbol)
    (limit : Int) :
    ∃ p, parse g tokens limit = .ok p ∧
      (∃ turns, ∀ n, turns ≤ n → Checked.parse n g tokens limit = .ok p) ∧
      (chartFrom g s limit 0 tokens).sets.length = tokens.length + 1 ∧
      (∀ set ∈ (chartFrom g s limit 0 tokens).sets, (set.size : Int) ≤ max (limit + 1) 0) ∧
      2 * (p.trees.length : Int) ≤ max (limit + 1) 0 := by
  obtain ⟨p, hp, -⟩ := parse_eq_ok hb hs tokens limit
  have hlength := @length_sets g s limit tokens 0
  have hsize := @size_le_of_mem_sets g s limit tokens 0
  have hfirst : (chartFrom g s limit 0 tokens).sets[0]? = some (chartFrom g s limit 0 tokens).sets[0] :=
    List.getElem?_eq_getElem (by omega)
  have htrees : 2 * p.trees.length ≤ (chartFrom g s limit 0 tokens).sets[0].size :=
    two_mul_length_trees_le hb hs hp hfirst
  have hcap := hsize _ (List.mem_of_getElem? hfirst)
  exact ⟨p, hp, Checked.exists_turns_parse hp, hlength, hsize, by omega⟩

/-- a grammar with a cycle and a terminal of the top name -/
def topSample : Grammar := ⟨[⟨"S", [["S"], [topName], ["a"]]⟩]⟩

/-- a parse of which both state sets are given up, one item beyond the limit -/
theorem parse_within_limit_top :
    topSample.Built ∧ topSample.start? = some "S" ∧ (chartFrom topSample "S" 3 0 ["a"]).complete = false ∧
      ∃ p, parse topSample ["a"] 3 = .ok p ∧
        (∃ turns, ∀ n, turns ≤ n → Checked.parse n topSample ["a"] 3 = .ok p) ∧
        (chartFrom topSample "S" 3 0 ["a"]).sets.length = 2 ∧
        (∀ set ∈ (chartFrom topSample "S" 3 0 ["a"]).sets, (set.size : Int) ≤ 4) ∧ 2 * (p.trees.length : Int) ≤ 4 := by
  have hb : topSample.Built := ⟨[("S", ["S"]), ("S", [topName]), ("S", ["a"])], by rfl⟩
  refine ⟨hb, rfl, ?_, parse_within_limit hb rfl ["a"] 3⟩
  open Evaluation in simp [topSample]

end GrammarLab.Chart
