/-
Relations given by rows.

`Links r x y` says that `r` relates `x` to `y`; paths are the reflexive and the transitive closure of that.
- `Coherent`: the keys are those that have a row, each once, as in every relation that rows were put into;
- `keys_ofList`, `targets_ofList`: a relation given by rows relates each key to just its row, if no two rows are of one
  key, so it has the pairs of the rows (`links_ofList`), and one tabulated over some keys has these keys and relates each
  to the elements tabulated for it (`links_tabulate`).
-/
import GrammarLab.Relation.Closure
import Mathlib.Logic.Relation
import Mathlib.Data.List.Nodup

namespace GrammarLab.Relation

variable {α : Type} [DecidableEq α] [Hashable α] {r : Relation α} {x y : α}

/-- the relation has the pair of `x` and `y` -/
def Links (r : Relation α) (x y : α) : Prop := y ∈ r.targets x

/-- the keys are those that have a row, each once -/
structure Coherent (r : Relation α) : Prop where
  mem_keys : ∀ x, x ∈ r.keys ↔ x ∈ r.rows
  nodup : r.keys.Nodup

theorem Coherent.mem_keys_of_links (h : r.Coherent) (link : r.Links x y) : x ∈ r.keys := by
  rw [h.mem_keys]
  by_contra hx
  rw [Links, targets, Std.HashMap.getD_eq_fallback hx] at link
  exact absurd link List.not_mem_nil

theorem coherent_empty : (empty : Relation α).Coherent := ⟨by simp [empty], List.nodup_nil⟩

theorem Coherent.insert (h : r.Coherent) (z : α) (zs : List α) : (r.insert z zs).Coherent := by
  unfold Relation.insert
  by_cases hz : z ∈ r.rows
  · have hkeys : z ∈ r.keys := (h.mem_keys z).2 hz
    refine ⟨fun x => ?_, ?_⟩
    · simp only [Std.HashMap.contains_iff_mem.2 hz, if_true, Std.HashMap.mem_insert, beq_iff_eq, ← h.mem_keys]
      exact ⟨Or.inr, by rintro (rfl | hx); exacts [hkeys, hx]⟩
    · simpa only [Std.HashMap.contains_iff_mem.2 hz, if_true] using h.nodup
  · have hkeys : z ∉ r.keys := fun hk => hz ((h.mem_keys z).1 hk)
    have hcontains : r.rows.contains z = false := by simpa using hz
    refine ⟨fun x => ?_, ?_⟩
    · rw [Std.HashMap.mem_insert, beq_iff_eq, ← h.mem_keys, eq_comm (a := z), or_comm]
      simp only [hcontains, Bool.false_eq_true, if_false, List.mem_append, List.mem_singleton]
    · simpa only [hcontains, Bool.false_eq_true, if_false] using
        List.nodup_append.2 ⟨h.nodup, List.nodup_singleton z, fun a ha b hb => by
          rw [List.mem_singleton.1 hb]
          exact fun e => hkeys (e ▸ ha)⟩

theorem targets_insert {z : α} {zs : List α} : (r.insert z zs).targets x = if z = x then zs else r.targets x := by
  simp only [targets, Relation.insert, Std.HashMap.getD_insert, beq_iff_eq]

theorem coherent_ofList (rows : List (α × List α)) : (ofList rows).Coherent := by
  suffices ∀ r : Relation α, r.Coherent → (rows.foldl (fun r row => r.insert row.1 row.2) r).Coherent from
    this _ coherent_empty
  induction rows with
  | nil => exact fun r h => h
  | cons row rows ih => exact fun r h => ih _ (h.insert row.1 row.2)

theorem targets_foldl_of_not_mem {rows : List (α × List α)} (hx : x ∉ rows.map Prod.fst) :
    (rows.foldl (fun r row => r.insert row.1 row.2) r).targets x = r.targets x := by
  induction rows generalizing r with
  | nil => rfl
  | cons row rows ih =>
    obtain ⟨hne, hrest⟩ := not_or.1 (mt List.mem_cons.2 hx)
    rw [List.foldl_cons, ih hrest, targets_insert, if_neg fun e => hne e.symm]

/-- of rows of different keys, put in one after another, none is replaced -/
theorem targets_foldl_of_mem {rows : List (α × List α)} (hnodup : (rows.map Prod.fst).Nodup) {ys : List α}
    (hrow : (x, ys) ∈ rows) : (rows.foldl (fun r row => r.insert row.1 row.2) r).targets x = ys := by
  induction rows generalizing r with
  | nil => exact absurd hrow List.not_mem_nil
  | cons row rows ih =>
    obtain ⟨hz, hrest⟩ := List.nodup_cons.1 hnodup
    rcases List.mem_cons.1 hrow with rfl | hrow
    · rw [List.foldl_cons, targets_foldl_of_not_mem hz, targets_insert, if_pos rfl]
    · exact ih hrest hrow

theorem keys_foldl {rows : List (α × List α)} (hnodup : (rows.map Prod.fst).Nodup) (hr : r.Coherent)
    (hfresh : ∀ x ∈ rows.map Prod.fst, x ∉ r.keys) :
    (rows.foldl (fun r row => r.insert row.1 row.2) r).keys = r.keys ++ rows.map Prod.fst := by
  induction rows generalizing r with
  | nil => simp
  | cons row rows ih =>
    obtain ⟨z, zs⟩ := row
    obtain ⟨hz, hrest⟩ := List.nodup_cons.1 hnodup
    obtain ⟨hzfresh, hfresh⟩ := List.forall_mem_cons.1 hfresh
    have hkeys : (r.insert z zs).keys = r.keys ++ [z] := by
      have hcontains : r.rows.contains z = false := by simpa [← hr.mem_keys] using hzfresh
      simp only [Relation.insert, hcontains, Bool.false_eq_true, if_false]
    rw [List.foldl_cons, ih hrest (hr.insert z zs) fun x hx => ?_, hkeys]
    · simp
    · rw [hkeys, List.mem_append, List.mem_singleton, not_or]
      exact ⟨hfresh x hx, fun e => hz (e ▸ hx)⟩

theorem keys_ofList {rows : List (α × List α)} (hnodup : (rows.map Prod.fst).Nodup) :
    (ofList rows).keys = rows.map Prod.fst := by
  have hkeys := keys_foldl hnodup coherent_empty (by simp [empty])
  rw [ofList, hkeys]
  simp [empty]

theorem targets_ofList {rows : List (α × List α)} (hnodup : (rows.map Prod.fst).Nodup) {ys : List α}
    (hrow : (x, ys) ∈ rows) : (ofList rows).targets x = ys := targets_foldl_of_mem hnodup hrow

theorem links_ofList {rows : List (α × List α)} (hnodup : (rows.map Prod.fst).Nodup) :
    (ofList rows).Links x y ↔ ∃ ys, (x, ys) ∈ rows ∧ y ∈ ys := by
  constructor
  · intro link
    have hx : x ∈ rows.map Prod.fst := by
      rw [← keys_ofList hnodup]
      exact (coherent_ofList rows).mem_keys_of_links link
    obtain ⟨⟨_, ys⟩, hrow, rfl⟩ := List.mem_map.1 hx
    rw [Links, targets_ofList hnodup hrow] at link
    exact ⟨ys, hrow, link⟩
  · rintro ⟨ys, hrow, hy⟩
    rw [Links, targets_ofList hnodup hrow]
    exact hy

theorem keys_tabulate {keys : List α} (hnodup : keys.Nodup) (f : α → List α) :
    (ofList (keys.map fun x => (x, f x))).keys = keys := by
  have hfst : (keys.map fun x => (x, f x)).map Prod.fst = keys := by simp [List.map_map, Function.comp_def]
  rw [keys_ofList (by rw [hfst]; exact hnodup), hfst]

theorem links_tabulate {keys : List α} (hnodup : keys.Nodup) (f : α → List α) :
    (ofList (keys.map fun x => (x, f x))).Links x y ↔ x ∈ keys ∧ y ∈ f x := by
  have hfst : (keys.map fun x => (x, f x)).map Prod.fst = keys := by simp [List.map_map, Function.comp_def]
  rw [links_ofList (by rw [hfst]; exact hnodup)]
  constructor
  · rintro ⟨ys, hmem, hy⟩
    obtain ⟨z, hz, hrow⟩ := List.mem_map.1 hmem
    obtain ⟨rfl, rfl⟩ := Prod.mk.inj hrow
    exact ⟨hz, hy⟩
  · rintro ⟨hx, hy⟩
    exact ⟨_, List.mem_map.2 ⟨x, hx, rfl⟩, hy⟩

end GrammarLab.Relation
