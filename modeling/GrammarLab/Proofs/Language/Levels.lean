/-
The levels of a language as a function of their number, without a store.

`Levels` gives each level, or nothing after the last. The four ways of making a language are functions on levels: `listed`,
`union`, `seq` and `star`, the last by recursion on the number of the level. A language has no gaps in its levels
(`Closed`): after a missing one, all are missing. `Regex.levels` are those of a regular expression, and `Regex.span` how
long a row of empty levels is expected in them.
-/
import GrammarLab.Language.Store
import Mathlib.Data.List.Basic

namespace GrammarLab

namespace Language

/-- each level of a language, if it has one of that number -/
abbrev Levels := Nat → Option StringSet

/-! ## Diagonals -/

/-- the product of two levels, if there are both -/
def product (x y : Option StringSet) : Option StringSet :=
  match x, y with
  | some x, some y => some (StringSet.append x y)
  | _, _ => none

/-- the union of the products of levels `i` of the first and `n - i` of the second language, if there are any such -/
def diagonal (f g : Levels) (n : Nat) : Option StringSet :=
  let products := (List.range (n + 1)).filterMap fun i => product (f i) (g (n - i))
  if products.isEmpty then none else some (StringSet.unions products)

theorem store_diagonal_eq (xs ys : Array StringSet) (n : Nat) :
    Store.diagonal xs ys n = diagonal (fun i => xs[i]?) (fun i => ys[i]?) n := rfl

theorem product_eq_some_iff {x y : Option StringSet} {l : StringSet} :
    product x y = some l ↔ ∃ xs ys, x = some xs ∧ y = some ys ∧ StringSet.append xs ys = l := by
  cases x <;> cases y <;> simp [product]

theorem product_eq_none_iff {x y : Option StringSet} : product x y = none ↔ x = none ∨ y = none := by
  cases x <;> cases y <;> simp [product]

/-- a diagonal needs no level of either language beyond its own number -/
theorem diagonal_congr {f f' g g' : Levels} {n : Nat} (hf : ∀ k ≤ n, f k = f' k) (hg : ∀ k ≤ n, g k = g' k) :
    diagonal f g n = diagonal f' g' n := by
  have : ((List.range (n + 1)).filterMap fun i => product (f i) (g (n - i))) =
      (List.range (n + 1)).filterMap fun i => product (f' i) (g' (n - i)) := by
    refine List.filterMap_congr fun i hi => ?_
    rw [hf i (Nat.lt_succ_iff.1 (List.mem_range.1 hi)), hg (n - i) (Nat.sub_le n i)]
  rw [diagonal, diagonal, this]

theorem diagonal_eq_none_iff {f g : Levels} {n : Nat} :
    diagonal f g n = none ↔ ∀ i j, i + j = n → f i = none ∨ g j = none := by
  have hproducts : ((List.range (n + 1)).filterMap fun i => product (f i) (g (n - i))) = [] ↔
      ∀ i j, i + j = n → f i = none ∨ g j = none := by
    rw [List.filterMap_eq_nil_iff]
    constructor
    · rintro h i j rfl
      have := h i (List.mem_range.2 (by omega))
      rwa [product_eq_none_iff, Nat.add_sub_cancel_left] at this
    · intro h i hi
      have := List.mem_range.1 hi
      exact product_eq_none_iff.2 (h i (n - i) (by omega))
  rw [diagonal, ← hproducts]
  split <;> simp_all

/-- what a diagonal that is there is the union of -/
theorem diagonal_eq_some {f g : Levels} {n : Nat} {l : StringSet} (h : diagonal f g n = some l) :
    ∃ products, l = StringSet.unions products ∧
      ∀ p, p ∈ products ↔ ∃ i j, i + j = n ∧ product (f i) (g j) = some p := by
  unfold diagonal at h
  simp only [] at h
  split at h
  · cases h
  · refine ⟨_, (Option.some.inj h).symm, fun p => ?_⟩
    rw [List.mem_filterMap]
    constructor
    · rintro ⟨i, hi, hp⟩
      have := List.mem_range.1 hi
      exact ⟨i, n - i, by omega, hp⟩
    · rintro ⟨i, j, rfl, hp⟩
      exact ⟨i, List.mem_range.2 (by omega), by rwa [Nat.add_sub_cancel_left]⟩

/-! ## The ways of making a language -/

namespace Levels

/-- the levels given -/
def listed (levels : List StringSet) : Levels := fun n => levels[n]?

/-- level by level, the texts of either language -/
def union (f g : Levels) : Levels := fun n => Store.join (f n) (g n)

/-- the texts of the first language followed by texts of the second -/
def seq (f g : Levels) : Levels := diagonal f g

/-- the texts of a language any number of times in a row -/
def star (f : Levels) : Levels
  | 0 => some [""]
  | n + 1 => diagonal (fun k => f (k + 1)) (fun k => if _h : k ≤ n then star f k else none) n

theorem star_zero (f : Levels) : star f 0 = some [""] := by rw [star]

theorem star_succ (f : Levels) (n : Nat) : star f (n + 1) = diagonal (fun k => f (k + 1)) (star f) n := by
  rw [star]
  exact diagonal_congr (fun _ _ => rfl) fun k hk => dif_pos hk

/-- after a level that is missing, all are missing -/
def Closed (f : Levels) : Prop := ∀ n, f n = none → f (n + 1) = none

theorem Closed.none_of_le {f : Levels} (h : Closed f) {n m : Nat} (hn : f n = none) (hnm : n ≤ m) : f m = none := by
  induction hnm with
  | refl => exact hn
  | step _ ih => exact h _ ih

theorem closed_none : Closed fun _ => none := fun _ _ => rfl

theorem closed_listed (levels : List StringSet) : Closed (listed levels) := by
  intro n hn
  have := List.getElem?_eq_none_iff.1 hn
  exact List.getElem?_eq_none_iff.2 (by omega)

theorem join_eq_none_iff {x y : Option StringSet} : Store.join x y = none ↔ x = none ∧ y = none := by
  cases x <;> cases y <;> simp [Store.join]

theorem Closed.union {f g : Levels} (hf : Closed f) (hg : Closed g) : Closed (union f g) := by
  intro n hn
  obtain ⟨hfn, hgn⟩ := join_eq_none_iff.1 hn
  exact join_eq_none_iff.2 ⟨hf n hfn, hg n hgn⟩

theorem Closed.seq {f g : Levels} (hf : Closed f) (hg : Closed g) : Closed (seq f g) := by
  intro n hn
  refine diagonal_eq_none_iff.2 fun i j hij => ?_
  cases j with
  | zero =>
    -- there is no level `n` of the first or no level 0 of the second language
    obtain rfl : i = n + 1 := hij
    exact (diagonal_eq_none_iff.1 hn n 0 rfl).imp_left (hf n)
  | succ j => exact (diagonal_eq_none_iff.1 hn i j (by omega)).imp_right (hg j)

theorem Closed.star {f : Levels} (hf : Closed f) : Closed (star f) := by
  intro n
  induction n using Nat.strongRecOn with
  | ind n ih =>
    intro hn
    cases n with
    | zero => rw [star_zero] at hn; cases hn
    | succ n =>
      rw [star_succ] at hn ⊢
      refine diagonal_eq_none_iff.2 fun i j hij => ?_
      cases j with
      | zero =>
        obtain rfl : i = n + 1 := hij
        exact (diagonal_eq_none_iff.1 hn n 0 rfl).imp_left (hf (n + 1))
      | succ j => exact (diagonal_eq_none_iff.1 hn i j (by omega)).imp_right (ih j (by omega))

end Levels

end Language

namespace Regex

/-- the levels of a regular expression -/
def levels : Regex → Language.Levels
  | empty => .listed [[""]]
  | letter s => .listed [[], [s]]
  | alt left right => left.levels.union right.levels
  | seq left right => left.levels.seq right.levels
  | star inner => inner.levels.star

theorem closed_levels (e : Regex) : e.levels.Closed := by
  induction e with
  | empty => exact Language.Levels.closed_listed _
  | letter s => exact Language.Levels.closed_listed _
  | alt left right ihl ihr => exact ihl.union ihr
  | seq left right ihl ihr => exact ihl.seq ihr
  | star inner ih => exact ih.star

/-- the most empty levels in a row that are expected of an expression -/
def span : Regex → Nat
  | empty => 1
  | letter _ => 2
  | alt left right => max left.span right.span
  | seq left right => left.span + right.span
  | star inner => inner.span

end Regex

end GrammarLab
