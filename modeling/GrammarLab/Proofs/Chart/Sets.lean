/-
What stands in the state sets of a whole chart.

- `arises_of_has`: every item of every state set arises at its position, whether or not sets were given up;
- `has_of_arises`: if none was given up, every item that arises at a position stands in the set of that position.
Both go by induction on the tokens, from the end of the input to its beginning: the sets of later positions are done when
a set is filled.
-/
import GrammarLab.Proofs.Chart.Filling

namespace GrammarLab.Chart

/-- the item stands in the set `k` places after the first position of the chart -/
def Has (chart : Chart) (k : Nat) (i : Item) : Prop := ∃ s : StateSet, chart.sets[k]? = some s ∧ i ∈ s.items

section

variable {g : Grammar} {limit : Int} {position : Nat} {chart : Chart} {items : List Item} {i : Item}

theorem sets_extend :
    (chart.extend g limit position items).sets =
      (explore g position chart.sets limit (.start items)).1 :: chart.sets := by
  unfold extend
  rcases explore g position chart.sets limit (.start items) with ⟨set, _ | waiting⟩ <;> rfl

theorem complete_extend :
    (chart.extend g limit position items).complete = true ↔
      chart.complete = true ∧ (explore g position chart.sets limit (.start items)).2 = none := by
  unfold extend
  rcases explore g position chart.sets limit (.start items) with ⟨set, _ | waiting⟩ <;> simp

theorem has_extend_zero :
    (chart.extend g limit position items).Has 0 i ↔
      i ∈ (explore g position chart.sets limit (.start items)).1.items := by
  simp [Has, sets_extend]

theorem has_extend_succ (k : Nat) : (chart.extend g limit position items).Has (k + 1) i ↔ chart.Has k i := by
  simp [Has, sets_extend]

theorem mem_scan {token : Symbol} {j : Item} :
    j ∈ scan g token chart ↔
      g.isTerminal token = true ∧ ∃ i, chart.Has 0 i ∧ i.over? token (.leaf token) = some j := by
  unfold scan
  by_cases h : g.isTerminal token = true
  · cases hsets : chart.sets with
    | nil => simp [Has, hsets]
    | cons set sets => simp [h, Has, hsets, List.mem_filterMap]
  · simp [h]

end

section

variable {g : Grammar} {start : Symbol} {tokens : List Symbol} {limit : Int}

/-- the tokens from a position on that is not the end: the token there, and those from the next position on -/
theorem getElem?_of_drop_eq_cons {p : Nat} {a : Symbol} {rest : List Symbol} (h : tokens.drop p = a :: rest) :
    tokens[p]? = some a ∧ tokens.drop (p + 1) = rest ∧ p + 1 ≤ tokens.length := by
  have hlen : p < tokens.length := by
    have := congrArg List.length h
    simp only [List.length_drop, List.length_cons] at this
    omega
  refine ⟨?_, ?_, hlen⟩
  · rw [← List.head?_drop, h]
    rfl
  · rw [← List.drop_drop, h]
    rfl

theorem laterSound_iff {position : Nat} {chart : Chart} :
    LaterSound g start tokens position chart.sets ↔
      ∀ k i, chart.Has k i → Arises g start tokens (position + 1 + k) i :=
  ⟨fun h k i ⟨s, hs, hi⟩ => h k s hs i hi, fun h k s hs i hi => h k i ⟨s, hs, hi⟩⟩

/-- nothing stands behind the last position -/
theorem laterSound_nil (position : Nat) : LaterSound g start tokens position [] := fun k s hs => by simp at hs

/-- what the last state set begins with arises -/
theorem arises_of_mem_initial :
    ∀ i ∈ [Item.predict topName [start] tokens.length], Arises g start tokens tokens.length i := by
  intro i hi
  rw [List.mem_singleton.1 hi]
  exact .top

/-- what every other state set begins with arises, if the items of the next one do -/
theorem arises_of_mem_scan {position : Nat} {token : Symbol} {chart : Chart} (htoken : tokens[position]? = some token)
    (hnext : ∀ i, chart.Has 0 i → Arises g start tokens (position + 1) i) :
    ∀ j ∈ scan g token chart, Arises g start tokens position j := by
  intro j hj
  obtain ⟨terminal, i, hi, moved⟩ := mem_scan.1 hj
  exact .scan (hnext i hi) htoken terminal moved

/-- **Every item of the chart arises at its position**, also where state sets were given up. -/
theorem arises_of_has (rest : List Symbol) :
    ∀ p, p ≤ tokens.length → tokens.drop p = rest → ∀ k i, (chartFrom g start limit p rest).Has k i →
      Arises g start tokens (p + k) i := by
  induction rest with
  | nil =>
    intro p hp hdrop k i hi
    obtain rfl : p = tokens.length := Nat.le_antisymm hp (List.drop_eq_nil_iff.1 hdrop)
    rw [chartFrom] at hi
    cases k with
    | zero => exact arises_of_mem_explore (laterSound_nil _) arises_of_mem_initial i (has_extend_zero.1 hi)
    | succ k =>
      obtain ⟨s, hs, -⟩ := (has_extend_succ k).1 hi
      simp at hs
  | cons a rest ih =>
    intro p hp hdrop k i hi
    obtain ⟨htoken, hrest, hlen⟩ := getElem?_of_drop_eq_cons hdrop
    have hlater := ih (p + 1) hlen hrest
    rw [chartFrom] at hi
    cases k with
    | zero =>
      exact arises_of_mem_explore (laterSound_iff.2 hlater) (arises_of_mem_scan htoken (hlater 0)) i
        (has_extend_zero.1 hi)
    | succ k =>
      have := hlater k i ((has_extend_succ k).1 hi)
      rwa [show p + 1 + k = p + (k + 1) by omega] at this

/-- a set that was not given up holds all that arises at its position, if the later sets do and it began with the items
that come from outside -/
theorem mem_explore_of_arises (hb : g.Built) (htop : g.TopFree) (hs : start ∈ g.names) {position : Nat} {chart : Chart}
    (hlater : ∀ k i, chart.Has k i ↔ Arises g start tokens (position + 1 + k) i) {items : List Item}
    (hitems : ∀ i ∈ items, Arises g start tokens position i)
    (hfirst : position = tokens.length → .predict topName [start] tokens.length ∈ items)
    (hscan : ∀ a i j, tokens[position]? = some a → g.isTerminal a = true → Arises g start tokens (position + 1) i →
      i.over? a (.leaf a) = some j → j ∈ items)
    (hdone : (explore g position chart.sets limit (.start items)).2 = none) {i : Item}
    (hi : Arises g start tokens position i) :
    i ∈ (explore g position chart.sets limit (.start items)).1.items := by
  obtain ⟨last, hsat, heq, hknown⟩ := saturated_explore hb htop hs
    (laterSound_iff.2 fun k i hi => (hlater k i).1 hi) hitems hdone
  rw [heq]
  suffices ∀ q i, Arises g start tokens q i → q = position → i ∈ last.set.items from this position i hi rfl
  intro q i hi
  induction hi with
  | top =>
    rintro rfl
    exact hknown _ (hsat.initial _ (hfirst rfl))
  | scan later token terminal moved _ =>
    rintro rfl
    exact hknown _ (hsat.initial _ (hscan _ _ _ token terminal later moved))
  | predict _ expected rule ih =>
    rintro rfl
    exact hknown _ (hsat.predicted _ (ih rfl) _ _ expected _ rule)
  | @complete q i prev j done completed waiting moved ih ihprev =>
    rintro rfl
    by_cases hfin : i.finish = q
    · exact hknown _ (hsat.here i (ih rfl) completed hfin prev (ihprev hfin) j moved)
    · have hle := done.le_finish
      obtain ⟨s, hset, hprev⟩ := (hlater (i.finish - q - 1) prev).2
        (by rwa [show q + 1 + (i.finish - q - 1) = i.finish by omega])
      exact hknown _ (hsat.later i (ih rfl) completed hfin s hset prev hprev j moved)

/-- **A chart of which nothing was given up has every item that arises**, at its position. -/
theorem has_of_arises (hb : g.Built) (htop : g.TopFree) (hs : start ∈ g.names) (rest : List Symbol) :
    ∀ p, p ≤ tokens.length → tokens.drop p = rest → (chartFrom g start limit p rest).complete = true →
      ∀ k i, Arises g start tokens (p + k) i → (chartFrom g start limit p rest).Has k i := by
  induction rest with
  | nil =>
    intro p hp hdrop hcomplete k i hi
    obtain rfl : p = tokens.length := Nat.le_antisymm hp (List.drop_eq_nil_iff.1 hdrop)
    rw [chartFrom] at hcomplete ⊢
    -- nothing arises after the end of the input
    have hlast : ∀ k i, Arises g start tokens (tokens.length + 1 + k) i → False := by
      intro k i hi
      have hle := Nat.le_trans hi.le_finish hi.finish_le
      omega
    have hlater : ∀ k i, (⟨[], [], true⟩ : Chart).Has k i ↔ Arises g start tokens (tokens.length + 1 + k) i :=
      fun k i => ⟨fun ⟨s, hset, _⟩ => by simp at hset, fun hi => (hlast k i hi).elim⟩
    cases k with
    | zero =>
      refine has_extend_zero.2 (mem_explore_of_arises hb htop hs hlater arises_of_mem_initial
        (fun _ => List.mem_singleton_self _) (fun a _ _ htoken => ?_) (complete_extend.1 hcomplete).2 hi)
      simp at htoken
    | succ k => exact (hlast k i (by rwa [show tokens.length + 1 + k = tokens.length + (k + 1) by omega])).elim
  | cons a rest ih =>
    intro p hp hdrop hcomplete k i hi
    obtain ⟨htoken, hrest, hlen⟩ := getElem?_of_drop_eq_cons hdrop
    rw [chartFrom] at hcomplete ⊢
    have hlater : ∀ k i, (chartFrom g start limit (p + 1) rest).Has k i ↔ Arises g start tokens (p + 1 + k) i :=
      fun k i => ⟨arises_of_has rest (p + 1) hlen hrest k i,
        ih (p + 1) hlen hrest (complete_extend.1 hcomplete).1 k i⟩
    cases k with
    | zero =>
      have hitems := arises_of_mem_scan htoken fun i hi => (hlater 0 i).1 hi
      refine has_extend_zero.2 (mem_explore_of_arises hb htop hs hlater hitems (fun hend => ?_)
        (fun b i' j htoken' terminal hi' moved => ?_) (complete_extend.1 hcomplete).2 hi)
      · omega
      · obtain rfl : a = b := Option.some.inj (htoken.symm.trans htoken')
        exact mem_scan.2 ⟨terminal, i', (hlater 0 i').2 hi', moved⟩
    | succ k => exact (has_extend_succ k).2 ((hlater k i).2 (by rwa [show p + 1 + k = p + (k + 1) by omega]))

/-- no item stands twice in the first set of a chart -/
theorem nodup_first {p : Nat} {rest : List Symbol} {set : StateSet}
    (h : (chartFrom g start limit p rest).sets[0]? = some set) : set.items.Nodup := by
  cases rest <;>
  · rw [chartFrom, sets_extend] at h
    obtain rfl := Option.some.inj h
    exact nodup_explore _ (by simp [Front.start, StateSet.empty])

end

end GrammarLab.Chart
