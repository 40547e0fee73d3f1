/-
Finite relations and what can be reached along them.

A relation lists, for each of its keys, the elements that the key is related to; targets need not be keys. `spread`
collects what can be reached from a stack of elements: it ends because an element is looked up only on its first visit,
and only keys have anything to add. `closure` relates every key to what it reaches in one or more steps, and `loops` are
the keys related to themselves.

The closure is found in passes over the keys. A pass adds to the row of each key the rows of the elements in it, as far
as they have come in the same pass; in which order it goes through these elements is left to a `Schedule`. A pass that
makes a row longer is followed by another one. That comes to an end because every such pass finds a pair of a key and an
element that was missing.
-/
import Std.Data.HashMap
import Std.Data.HashSet

namespace GrammarLab

variable {α : Type} [DecidableEq α] [Hashable α]

/-- a finite relation, its keys in order of first mention -/
structure Relation (α : Type) [DecidableEq α] [Hashable α] where
  keys : List α
  rows : Std.HashMap α (List α)

namespace Relation

/-- the relation without pairs -/
def empty : Relation α := ⟨[], ∅⟩

/-- relate `x` to just the elements of `ys`; a key that is known keeps its place -/
def insert (r : Relation α) (x : α) (ys : List α) : Relation α :=
  ⟨if r.rows.contains x then r.keys else r.keys ++ [x], r.rows.insert x ys⟩

/-- the relation of the given rows; of two rows of one key the later counts -/
def ofList (rows : List (α × List α)) : Relation α :=
  rows.foldl (fun r row => r.insert row.1 row.2) empty

/-- the elements that `x` is related to -/
def targets (r : Relation α) (x : α) : List α := r.rows.getD x []

/-- the keys related to themselves -/
def loops (r : Relation α) : List α := r.keys.filter fun x => (r.targets x).contains x

/-! ## Reaching -/

/-- fewer elements satisfy the stronger of two conditions if there is one that satisfies only the weaker -/
theorem countP_lt {β : Type} {p q : β → Bool} {l : List β} {b : β} (hle : ∀ a ∈ l, p a = true → q a = true) (hb : b ∈ l)
    (hp : p b = false) (hq : q b = true) : l.countP p < l.countP q := by
  obtain ⟨before, after, rfl⟩ := List.append_of_mem hb
  have hbefore : before.countP p ≤ before.countP q :=
    List.countP_mono_left fun a ha => hle a (List.mem_append_left _ ha)
  have hafter : after.countP p ≤ after.countP q :=
    List.countP_mono_left fun a ha => hle a (List.mem_append_right _ (List.mem_cons_of_mem _ ha))
  simp only [List.countP_append, List.countP_cons, hp, hq, Bool.false_eq_true, if_true, if_false]
  omega

/-- how many of the keys are not in `seen` -/
def unseen (keys : List α) (seen : Std.HashSet α) : Nat := keys.countP fun k => !seen.contains k

theorem not_contains_of_insert {seen : Std.HashSet α} {x k : α} (h : (!(seen.insert x).contains k) = true) :
    (!seen.contains k) = true := by
  simp only [Std.HashSet.contains_insert, Bool.not_eq_true', Bool.or_eq_false_iff] at h
  simp [h.2]

theorem unseen_insert_le (keys : List α) (seen : Std.HashSet α) (x : α) :
    unseen keys (seen.insert x) ≤ unseen keys seen :=
  List.countP_mono_left fun _ _ => not_contains_of_insert

theorem unseen_insert_lt {keys : List α} {seen : Std.HashSet α} {x : α} (hx : x ∈ keys) (hs : x ∉ seen) :
    unseen keys (seen.insert x) < unseen keys seen :=
  countP_lt (fun _ _ => not_contains_of_insert) hx (by simp) (by simpa using hs)

/-- `seen` with all that can be reached from the stack without passing through `seen` -/
def spread (rows : Std.HashMap α (List α)) (seen : Std.HashSet α) : List α → Std.HashSet α
  | [] => seen
  | x :: stack =>
    if x ∈ seen then spread rows seen stack
    else spread rows (seen.insert x) (rows.getD x [] ++ stack)
termination_by stack => (unseen rows.keys seen, stack.length)
decreasing_by
  · exact Prod.Lex.right _ (by simp)
  · rename_i h
    by_cases hx : x ∈ rows
    · exact Prod.Lex.left _ _ (unseen_insert_lt (by simpa using hx) h)
    · -- an element without a row adds nothing to the stack
      rw [Std.HashMap.getD_eq_fallback hx]
      rcases Nat.lt_or_eq_of_le (unseen_insert_le rows.keys seen x) with hlt | heq
      · exact Prod.Lex.left _ _ hlt
      · rw [heq]; exact Prod.Lex.right _ (by simp)

/-- what can be reached from the elements of `xs` in any number of steps -/
def reach (r : Relation α) (xs : List α) : Std.HashSet α := spread r.rows ∅ xs

/-! ## Passes -/

/-- the elements that some key is related to -/
def elements (r : Relation α) : List α := r.rows.keys.flatMap r.targets

theorem mem_elements {r : Relation α} {x y : α} (h : y ∈ r.targets x) : y ∈ r.elements := by
  by_cases hx : x ∈ r.rows
  · exact List.mem_flatMap.2 ⟨x, Std.HashMap.mem_keys.2 hx, h⟩
  · rw [targets, Std.HashMap.getD_eq_fallback hx] at h
    exact absurd h List.not_mem_nil

/-- in which order a pass goes through the elements that it finds in the row of a key -/
structure Schedule (α : Type) where
  order : Nat → α → List α → List α
  perm : ∀ pass x ys, (order pass x ys).Perm ys

/-- as the row lists them -/
def Schedule.asListed : Schedule α := ⟨fun _ _ ys => ys, fun _ _ ys => .refl ys⟩

/-- what every key is known to lead to, all of it elements of the relation -/
structure Known (r : Relation α) where
  rows : Std.HashMap α (Std.HashSet α)
  within : ∀ x, ∀ y ∈ rows.getD x ∅, y ∈ r.elements

namespace Known

variable {r : Relation α} {k : Known r} {s : Schedule α} {pass : Nat} {xs zs : List α} {ys : Std.HashSet α} {x y a : α}

/-- what `x` is known to lead to -/
def row (k : Known r) (x : α) : Std.HashSet α := k.rows.getD x ∅

theorem mem_getD_map_ofList {rows : Std.HashMap α (List α)} :
    y ∈ (rows.map fun _ ys => Std.HashSet.ofList ys).getD x ∅ ↔ y ∈ rows.getD x [] := by
  rw [Std.HashMap.getD_map, Std.HashMap.getD_eq_getD_getElem?]
  cases rows[x]? with
  | none => simp
  | some ys => simp

/-- every key leads to what it is related to -/
def start (r : Relation α) : Known r where
  rows := r.rows.map fun _ ys => .ofList ys
  within _ _ hy := mem_elements (mem_getD_map_ofList.1 hy)

theorem mem_row_start : y ∈ (start r).row x ↔ y ∈ r.targets x := mem_getD_map_ofList

/-- `ys` with the rows of the elements `zs` -/
def gather (k : Known r) (ys : Std.HashSet α) (zs : List α) : Std.HashSet α :=
  zs.foldl (fun ys z => ys ∪ k.row z) ys

theorem mem_gather : y ∈ k.gather ys zs ↔ y ∈ ys ∨ ∃ z ∈ zs, y ∈ k.row z := by
  induction zs generalizing ys with
  | nil => simp [gather]
  | cons z zs ih =>
    have hunion : y ∈ ys ∪ k.row z ↔ y ∈ ys ∨ y ∈ k.row z := Std.HashSet.mem_union_iff
    rw [gather, List.foldl_cons, ← gather, ih, hunion, or_assoc]
    simp

/-- the row of `x` with the rows of the elements that it holds -/
def visit (s : Schedule α) (pass : Nat) (k : Known r) (x : α) : Known r where
  rows := k.rows.insert x (k.gather (k.row x) (s.order pass x (k.row x).toList))
  within a y hy := by
    rw [Std.HashMap.getD_insert] at hy
    split at hy
    · rcases mem_gather.1 hy with hy | ⟨z, -, hy⟩
      · exact k.within _ _ hy
      · exact k.within _ _ hy
    · exact k.within _ _ hy

theorem mem_row_visit : y ∈ (k.visit s pass x).row a ↔ y ∈ k.row a ∨ x = a ∧ ∃ z ∈ k.row x, y ∈ k.row z := by
  have horder : ∀ z, z ∈ s.order pass x (k.row x).toList ↔ z ∈ k.row x := fun z =>
    (s.perm pass x _).mem_iff.trans Std.HashSet.mem_toList
  rw [row, visit, Std.HashMap.getD_insert]
  by_cases h : x = a
  · subst h
    simp only [BEq.rfl, if_true, mem_gather, horder, true_and]
  · simp only [beq_eq_false_iff_ne.2 h, Bool.false_eq_true, if_false, h, false_and, or_false]
    rfl

/-- whether `x` is known to lead to more than before -/
def grown (before after : Known r) (x : α) : Bool := (after.row x).toList.any fun y => !(before.row x).contains y

/-- the rows of `xs` visited one after another, and whether one of them has grown -/
def visitAll (s : Schedule α) (pass : Nat) : List α → Known r → Known r × Bool
  | [], k => (k, false)
  | x :: xs, k =>
    let next := k.visit s pass x
    let (last, more) := visitAll s pass xs next
    (last, k.grown next x || more)

theorem visitAll_cons : k.visitAll s pass (x :: xs) =
    (((k.visit s pass x).visitAll s pass xs).1,
      k.grown (k.visit s pass x) x || ((k.visit s pass x).visitAll s pass xs).2) := rfl

/-- how many pairs of a key and an element are not known -/
def missing (k : Known r) : Nat :=
  (r.keys.flatMap fun x => r.elements.map fun y => (x, y)).countP fun p => !(k.row p.1).contains p.2

theorem not_contains_of_visit (h : (!((k.visit s pass x).row a).contains y) = true) :
    (!(k.row a).contains y) = true := by
  simp only [Bool.not_eq_true', Std.HashSet.contains_eq_false_iff_not_mem, mem_row_visit, not_or] at h ⊢
  exact h.1

theorem missing_visit_le : (k.visit s pass x).missing ≤ k.missing :=
  List.countP_mono_left fun _ _ => not_contains_of_visit

theorem missing_visit_lt (hx : x ∈ r.keys) (h : k.grown (k.visit s pass x) x = true) :
    (k.visit s pass x).missing < k.missing := by
  obtain ⟨y, hy, hnew⟩ := List.any_eq_true.1 h
  have hafter : y ∈ (k.visit s pass x).row x := Std.HashSet.mem_toList.1 hy
  refine countP_lt (b := (x, y)) (fun p _ => not_contains_of_visit) ?_ ?_ hnew
  · exact List.mem_flatMap.2 ⟨x, hx, List.mem_map_of_mem ((k.visit s pass x).within x y hafter)⟩
  · simpa using hafter

theorem missing_visitAll (hxs : ∀ x ∈ xs, x ∈ r.keys) :
    (k.visitAll s pass xs).1.missing ≤ k.missing ∧
      ((k.visitAll s pass xs).2 = true → (k.visitAll s pass xs).1.missing < k.missing) := by
  induction xs generalizing k with
  | nil => exact ⟨Nat.le_refl _, fun h => Bool.noConfusion h⟩
  | cons x xs ih =>
    obtain ⟨hx, hxs⟩ := List.forall_mem_cons.1 hxs
    obtain ⟨hle, hlt⟩ := ih (k := k.visit s pass x) hxs
    rw [visitAll_cons]
    have hfirst : (k.visit s pass x).missing ≤ k.missing := missing_visit_le
    refine ⟨Nat.le_trans hle hfirst, fun h => ?_⟩
    simp only [Bool.or_eq_true] at h
    rcases h with hgrown | hmore
    · exact Nat.lt_of_le_of_lt hle (missing_visit_lt hx hgrown)
    · exact Nat.lt_of_lt_of_le (hlt hmore) hfirst

/-- passes until one of them adds nothing -/
def saturate (s : Schedule α) (pass : Nat) (k : Known r) : Known r :=
  let round := k.visitAll s pass r.keys
  if round.2 then saturate s (pass + 1) round.1 else round.1
termination_by k.missing
decreasing_by exact (missing_visitAll fun _ h => h).2 ‹_›

end Known

/-- every key related to what it reaches in one or more steps, found in passes by a schedule -/
def closureBy (s : Schedule α) (r : Relation α) : Relation α :=
  let known := (Known.start r).saturate s 0
  ofList (r.keys.map fun x => (x, (known.row x).toList))

/-- every key related to what it reaches in one or more steps -/
def closure (r : Relation α) : Relation α := r.closureBy .asListed

end Relation

end GrammarLab
