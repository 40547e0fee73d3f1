/-
What a worklist collects, in whatever order it is worked off.

A worklist holds what has been seen and what waits, where an element may wait more than once. A turn takes one element
that waits: one that was seen is dropped, another is marked as seen and all that it is related to waits as well. Which
element is taken and where the new ones are put is left open, so a queue and a stack are worked off in such turns alike.
- `Turns.owed_eq`: every turn works off one of what a worklist owes, which is what waits and what stands in the rows not
  yet looked up, so no run of turns is longer than what its first worklist owes;
- `Turns.explores`, `Explores.mem_seen_iff`: all seen or waiting is reached, and what something seen is related to is seen
  or waits; when nothing waits any more, exactly what paths lead to has been seen;
- `turns_spread`, `mem_reach`: the reach of some elements is what one such run ends with.
-/
import GrammarLab.Proofs.Relation.Rows

namespace GrammarLab

variable {α : Type} [DecidableEq α] [Hashable α]

/-- what has been seen, and what waits to be looked at -/
structure Worklist (α : Type) [DecidableEq α] [Hashable α] where
  seen : Std.HashSet α
  waiting : List α

/-- nothing has been seen, and all of `xs` waits -/
def Worklist.start (xs : List α) : Worklist α := ⟨∅, xs⟩

namespace Relation

variable {r : Relation α} {w w' : Worklist α} {xs : List α} {x y : α} {n : Nat}

/-! ## Turns -/

/-- one element that waits is taken, and dropped or looked up -/
inductive Turn (r : Relation α) : Worklist α → Worklist α → Prop where
  | drop {seen : Std.HashSet α} {waiting rest : List α} {x : α} (taken : waiting.Perm (x :: rest)) (known : x ∈ seen) :
    Turn r ⟨seen, waiting⟩ ⟨seen, rest⟩
  | mark {seen : Std.HashSet α} {waiting rest next : List α} {x : α} (taken : waiting.Perm (x :: rest))
    (fresh : x ∉ seen) (added : next.Perm (r.targets x ++ rest)) : Turn r ⟨seen, waiting⟩ ⟨seen.insert x, next⟩

/-- a number of turns one after another -/
inductive Turns (r : Relation α) : Nat → Worklist α → Worklist α → Prop where
  | none {w : Worklist α} : Turns r 0 w w
  | more {n : Nat} {w w' last : Worklist α} (first : Turn r w w') (others : Turns r n w' last) : Turns r (n + 1) w last

/-- while something waits there is a turn -/
theorem exists_turn (hw : w.waiting ≠ []) : ∃ w', r.Turn w w' := by
  obtain ⟨seen, waiting⟩ := w
  cases waiting with
  | nil => exact absurd rfl hw
  | cons x rest =>
    by_cases hx : x ∈ seen
    · exact ⟨_, .drop (.refl _) hx⟩
    · exact ⟨_, .mark (.refl _) hx (.refl _)⟩

/-! ## What a worklist owes -/

/-- what stands in the rows of the keys not yet seen, as often as it stands there -/
def unread (r : Relation α) (seen : Std.HashSet α) : List α := (r.keys.filter fun k => k ∉ seen).flatMap r.targets

/-- how many elements are still to be taken if all are looked up -/
def owed (r : Relation α) (w : Worklist α) : Nat := w.waiting.length + (r.unread w.seen).length

theorem Coherent.targets_of_not_mem (h : r.Coherent) (hx : x ∉ r.keys) : r.targets x = [] :=
  List.eq_nil_iff_forall_not_mem.2 fun _ hy => hx (h.mem_keys_of_links hy)

/-- an element that is marked has its row taken out of the unread ones -/
theorem Coherent.length_unread (h : r.Coherent) {seen : Std.HashSet α} (hx : x ∉ seen) :
    (r.unread seen).length = (r.targets x).length + (r.unread (seen.insert x)).length := by
  by_cases hk : x ∈ r.keys
  · have herase : (r.keys.erase x).filter (fun k => k ∉ seen.insert x) = (r.keys.erase x).filter fun k => k ∉ seen := by
      refine List.filter_congr fun k hk => ?_
      have hne : x ≠ k := fun e => (h.nodup.mem_erase_iff.1 hk).1 e.symm
      simp [Std.HashSet.mem_insert, hne]
    have hbefore : (r.keys.filter fun k => k ∉ seen).Perm (x :: (r.keys.erase x).filter fun k => k ∉ seen) := by
      simpa [hx] using (List.perm_cons_erase hk).filter fun k => decide (k ∉ seen)
    have hafter : (r.keys.filter fun k => k ∉ seen.insert x).Perm ((r.keys.erase x).filter fun k => k ∉ seen) := by
      rw [← herase]
      simpa using (List.perm_cons_erase hk).filter fun k => decide (k ∉ seen.insert x)
    rw [unread, unread, (hbefore.flatMap_right _).length_eq, (hafter.flatMap_right _).length_eq, List.flatMap_cons,
      List.length_append]
  · have hsame : r.keys.filter (fun k => k ∉ seen.insert x) = r.keys.filter fun k => k ∉ seen := by
      refine List.filter_congr fun k hmem => ?_
      have hne : x ≠ k := fun e => hk (e ▸ hmem)
      simp [Std.HashSet.mem_insert, hne]
    rw [unread, unread, hsame, h.targets_of_not_mem hk, List.length_nil, Nat.zero_add]

/-- every turn works off one -/
theorem Turn.owed_eq (h : r.Coherent) (turn : r.Turn w w') : r.owed w = r.owed w' + 1 := by
  cases turn with
  | drop taken known =>
    have hlength := taken.length_eq
    simp only [owed, List.length_cons] at hlength ⊢
    omega
  | mark taken fresh added =>
    have hlength := taken.length_eq
    have hadded := added.length_eq
    have hunread := h.length_unread fresh
    simp only [owed, List.length_cons, List.length_append] at hlength hadded ⊢
    omega

/-- **Turns come to an end**: what the first worklist owes is what the last one owes and the turns between them. -/
theorem Turns.owed_eq (h : r.Coherent) (turns : r.Turns n w w') : r.owed w = r.owed w' + n := by
  induction turns with
  | none => rfl
  | more first _ ih => rw [first.owed_eq h, ih, Nat.add_assoc]

/-! ## What a worklist explores -/

/-- the worklist is on its way from `xs`: all that it holds is reached, and all that is reached it holds or will hold -/
structure Explores (r : Relation α) (xs : List α) (w : Worklist α) : Prop where
  reached : ∀ y, y ∈ w.seen ∨ y ∈ w.waiting → ∃ x ∈ xs, Relation.ReflTransGen r.Links x y
  begun : ∀ x ∈ xs, x ∈ w.seen ∨ x ∈ w.waiting
  covered : ∀ x ∈ w.seen, ∀ y, r.Links x y → y ∈ w.seen ∨ y ∈ w.waiting

theorem explores_start (r : Relation α) (xs : List α) : r.Explores xs (.start xs) where
  reached y hy := ⟨y, hy.resolve_left Std.HashSet.not_mem_empty, .refl⟩
  begun _ hx := .inr hx
  covered _ hx := absurd hx Std.HashSet.not_mem_empty

/-- a turn loses nothing: what was seen stays seen, and what waited waits or is seen -/
theorem Turn.keeps (turn : r.Turn w w') (hy : y ∈ w.seen ∨ y ∈ w.waiting) : y ∈ w'.seen ∨ y ∈ w'.waiting := by
  cases turn with
  | drop taken known =>
    rw [taken.mem_iff, List.mem_cons] at hy
    rcases hy with hy | rfl | hy
    · exact .inl hy
    · exact .inl known
    · exact .inr hy
  | mark taken fresh added =>
    rw [taken.mem_iff, List.mem_cons] at hy
    rw [Std.HashSet.mem_insert, beq_iff_eq, added.mem_iff, List.mem_append]
    rcases hy with hy | rfl | hy
    · exact .inl (.inr hy)
    · exact .inl (.inl rfl)
    · exact .inr (.inr hy)

theorem Explores.turn (h : r.Explores xs w) (turn : r.Turn w w') : r.Explores xs w' := by
  refine ⟨?_, fun x hx => turn.keeps (h.begun x hx), ?_⟩
  · -- what is new is one step away from the element that was taken
    cases turn with
    | drop taken known =>
      rintro y (hy | hy)
      · exact h.reached y (.inl hy)
      · exact h.reached y (.inr (taken.mem_iff.2 (List.mem_cons_of_mem _ hy)))
    | @mark seen waiting rest next z taken fresh added =>
      obtain ⟨x, hx, path⟩ := h.reached z (.inr (taken.mem_iff.2 List.mem_cons_self))
      rintro y (hy | hy)
      · rcases Std.HashSet.mem_insert.1 hy with hzy | hy
        · exact ⟨x, hx, eq_of_beq hzy ▸ path⟩
        · exact h.reached y (.inl hy)
      · rcases List.mem_append.1 (added.mem_iff.1 hy) with hy | hy
        · exact ⟨x, hx, path.tail hy⟩
        · exact h.reached y (.inr (taken.mem_iff.2 (List.mem_cons_of_mem _ hy)))
  · -- only the element that was taken can be seen now and not before, and its row waits
    intro x hx y link
    have hbefore : x ∈ w.seen → y ∈ w'.seen ∨ y ∈ w'.waiting := fun hx => turn.keeps (h.covered x hx y link)
    cases turn with
    | drop taken known => exact hbefore hx
    | mark taken fresh added =>
      rcases Std.HashSet.mem_insert.1 hx with hxnew | hx
      · rw [← eq_of_beq hxnew] at link
        exact .inr (added.mem_iff.2 (List.mem_append_left _ link))
      · exact hbefore hx

theorem Turns.explores (turns : r.Turns n w w') (h : r.Explores xs w) : r.Explores xs w' := by
  induction turns with
  | none => exact h
  | more first _ ih => exact ih (h.turn first)

/-- **When nothing waits any more, exactly what paths lead to has been seen.** -/
theorem Explores.mem_seen_iff (h : r.Explores xs w) (hw : w.waiting = []) :
    y ∈ w.seen ↔ ∃ x ∈ xs, Relation.ReflTransGen r.Links x y := by
  have hseen : ∀ {y}, y ∈ w.seen ∨ y ∈ w.waiting → y ∈ w.seen := fun hy =>
    hy.resolve_right (hw ▸ List.not_mem_nil)
  refine ⟨fun hy => h.reached y (.inl hy), ?_⟩
  rintro ⟨x, hx, path⟩
  induction path with
  | refl => exact hseen (h.begun x hx)
  | tail _ link ih => exact hseen (h.covered _ ih _ link)

/-! ## The reach of some elements -/

/-- the worklist worked off as a stack -/
theorem turns_spread (seen : Std.HashSet α) (stack : List α) :
    ∃ n, r.Turns n ⟨seen, stack⟩ ⟨spread r.rows seen stack, []⟩ := by
  fun_induction spread r.rows seen stack with
  | case1 seen => exact ⟨0, .none⟩
  | case2 seen x stack hx ih =>
    obtain ⟨n, turns⟩ := ih
    exact ⟨n + 1, .more (.drop (.refl _) hx) turns⟩
  | case3 seen x stack hx ih =>
    obtain ⟨n, turns⟩ := ih
    exact ⟨n + 1, .more (.mark (.refl _) hx (.refl _)) turns⟩

theorem turns_reach (r : Relation α) (xs : List α) : ∃ n, r.Turns n (.start xs) ⟨r.reach xs, []⟩ := turns_spread ∅ xs

/-- **The reach of some elements is exactly what paths from them lead to.** -/
theorem mem_reach : y ∈ r.reach xs ↔ ∃ x ∈ xs, Relation.ReflTransGen r.Links x y := by
  obtain ⟨n, turns⟩ := turns_reach r xs
  exact (turns.explores (explores_start r xs)).mem_seen_iff rfl

end Relation

end GrammarLab
