/-
Finite sets of texts: the operations keep the order and have the members that they should.

A set of texts is a list that increases strictly (`Increasing`). `union` needs that of both lists, `unions` of all, and
`append` of the second only: the same text before each text of an increasing list makes an increasing list. The members
are right for all lists, and along a merge they carry the order: what comes before both lists comes before their union
(`lt_of_mem_union`). A set has one list only (`Represents.unique`), so it does not matter in which order sets are joined.
- `operations_exact`: what `union`, `unions` and `append` represent.
-/
import GrammarLab.Language.StringSet

namespace GrammarLab.StringSet

/-- the texts stand in increasing order, none twice -/
def Increasing (l : StringSet) : Prop := l.Pairwise (· < ·)

instance (l : StringSet) : Decidable (Increasing l) := inferInstanceAs (Decidable (l.Pairwise (· < ·)))

theorem increasing_cons {x : String} {l : StringSet} : Increasing (x :: l) ↔ (∀ y ∈ l, x < y) ∧ Increasing l :=
  List.pairwise_cons

theorem lt_or_gt_of_ne {x y : String} (h : x ≠ y) : x < y ∨ y < x := by
  rcases String.le_total x y with hle | hle
  · exact Or.inl (Decidable.not_not.1 fun hlt => h (String.le_antisymm hle hlt))
  · exact Or.inr (Decidable.not_not.1 fun hlt => h (String.le_antisymm hlt hle))

/-- sets with the same members are the same list -/
theorem Increasing.ext {l l' : StringSet} (h : Increasing l) (h' : Increasing l') (hmem : ∀ s, s ∈ l ↔ s ∈ l') :
    l = l' := by
  have hne : ∀ {l : StringSet}, Increasing l → l.Nodup := fun h => h.imp String.ne_of_lt
  have hperm : l.Perm l' := (List.perm_ext_iff_of_nodup (hne h) (hne h')).2 hmem
  exact hperm.eq_of_pairwise (fun x y _ _ hxy hyx => absurd (String.lt_trans hxy hyx) (String.lt_irrefl x)) h h'

/-! ## Members -/

theorem mem_union {s : String} (xs ys : StringSet) : s ∈ union xs ys ↔ s ∈ xs ∨ s ∈ ys := by
  fun_induction union xs ys with
  | case1 ys => simp
  | case2 xs => simp
  | case3 x xs y ys _ ih => rw [List.mem_cons, ih, List.mem_cons, List.mem_cons, or_assoc]
  | case4 x xs ys _ ih => rw [List.mem_cons, ih, List.mem_cons, List.mem_cons]; grind
  | case5 x xs y ys _ _ ih => rw [List.mem_cons, ih, List.mem_cons, List.mem_cons]; grind

theorem mem_foldl_union {s : String} (sets : List StringSet) :
    ∀ start, s ∈ sets.foldl union start ↔ s ∈ start ∨ ∃ l ∈ sets, s ∈ l := by
  induction sets with
  | nil => simp
  | cons l sets ih =>
    intro start
    rw [List.foldl_cons, ih, mem_union]
    simp [or_assoc]

theorem mem_unions {s : String} (sets : List StringSet) : s ∈ unions sets ↔ ∃ l ∈ sets, s ∈ l := by
  simp [unions, mem_foldl_union]

theorem mem_append {s : String} (xs ys : StringSet) : s ∈ append xs ys ↔ ∃ x ∈ xs, ∃ y ∈ ys, x ++ y = s := by
  rw [append, mem_unions]
  constructor
  · rintro ⟨l, hl, hs⟩
    obtain ⟨x, hx, rfl⟩ := List.mem_map.1 hl
    exact ⟨x, hx, List.mem_map.1 hs⟩
  · rintro ⟨x, hx, hs⟩
    exact ⟨_, List.mem_map_of_mem hx, List.mem_map.2 hs⟩

/-! ## Order -/

/-- what comes before the first text comes before them all -/
theorem Increasing.lt_of_lt_head {x y : String} {l : StringSet} (h : Increasing (y :: l)) (hlt : x < y) :
    ∀ z ∈ y :: l, x < z := by
  intro z hz
  rcases List.mem_cons.1 hz with rfl | hz
  · exact hlt
  · exact String.lt_trans hlt ((increasing_cons.1 h).1 z hz)

/-- what comes before both sets comes before their union -/
theorem lt_of_mem_union {x : String} {xs ys : StringSet} (hx : ∀ z ∈ xs, x < z) (hy : ∀ z ∈ ys, x < z) :
    ∀ z ∈ union xs ys, x < z := by
  intro z hz
  rcases (mem_union xs ys).1 hz with hz | hz
  · exact hx z hz
  · exact hy z hz

theorem Increasing.union {xs ys : StringSet} (hx : Increasing xs) (hy : Increasing ys) :
    Increasing (union xs ys) := by
  -- the text that a turn puts out comes before all that is left of both lists
  fun_induction StringSet.union xs ys with
  | case1 ys => exact hy
  | case2 xs => exact hx
  | case3 x xs y ys hlt ih =>
    obtain ⟨hxs, hx'⟩ := increasing_cons.1 hx
    exact increasing_cons.2 ⟨lt_of_mem_union hxs (hy.lt_of_lt_head hlt), ih hx' hy⟩
  | case4 x xs ys _ ih =>
    obtain ⟨hxs, hx'⟩ := increasing_cons.1 hx
    obtain ⟨hys, hy'⟩ := increasing_cons.1 hy
    exact increasing_cons.2 ⟨lt_of_mem_union hxs hys, ih hx' hy'⟩
  | case5 x xs y ys hnot hne ih =>
    obtain ⟨hys, hy'⟩ := increasing_cons.1 hy
    have hlt : y < x := (lt_or_gt_of_ne hne).resolve_left hnot
    exact increasing_cons.2 ⟨lt_of_mem_union (hx.lt_of_lt_head hlt) hys, ih hx hy'⟩

theorem increasing_foldl_union {sets : List StringSet} (h : ∀ l ∈ sets, Increasing l) :
    ∀ start, Increasing start → Increasing (sets.foldl union start) := by
  induction sets with
  | nil => exact fun start hstart => hstart
  | cons l sets ih =>
    intro start hstart
    obtain ⟨hl, hsets⟩ := List.forall_mem_cons.1 h
    exact ih hsets _ (hstart.union hl)

theorem increasing_unions {sets : List StringSet} (h : ∀ l ∈ sets, Increasing l) : Increasing (unions sets) :=
  increasing_foldl_union h [] List.Pairwise.nil

/-- the same text in front keeps the order -/
theorem append_lt_append (x : String) {y z : String} (h : y < z) : x ++ y < x ++ z := by
  change (x ++ y).toList < (x ++ z).toList
  rw [String.toList_append, String.toList_append]
  exact List.append_left_lt h

theorem increasing_append (xs : StringSet) {ys : StringSet} (hy : Increasing ys) : Increasing (append xs ys) := by
  refine increasing_unions fun l hl => ?_
  obtain ⟨x, -, rfl⟩ := List.mem_map.1 hl
  exact List.pairwise_map.2 (hy.imp fun h => append_lt_append x h)

/-! ## The sets that the operations make -/

/-- the list of all texts with a property, in increasing order -/
structure Represents (l : StringSet) (p : String → Prop) : Prop where
  increasing : Increasing l
  mem_iff : ∀ s, s ∈ l ↔ p s

/-- a set has one list only -/
theorem Represents.unique {l l' : StringSet} {p : String → Prop} (h : Represents l p) (h' : Represents l' p) :
    l = l' :=
  h.increasing.ext h'.increasing fun s => (h.mem_iff s).trans (h'.mem_iff s).symm

theorem represents_union {xs ys : StringSet} (hx : Increasing xs) (hy : Increasing ys) :
    Represents (union xs ys) fun s => s ∈ xs ∨ s ∈ ys where
  increasing := hx.union hy
  mem_iff := fun _ => mem_union xs ys

theorem represents_unions {sets : List StringSet} (h : ∀ l ∈ sets, Increasing l) :
    Represents (unions sets) fun s => ∃ l ∈ sets, s ∈ l where
  increasing := increasing_unions h
  mem_iff := fun _ => mem_unions sets

theorem represents_append (xs : StringSet) {ys : StringSet} (hy : Increasing ys) :
    Represents (append xs ys) fun s => ∃ x ∈ xs, ∃ y ∈ ys, x ++ y = s where
  increasing := increasing_append xs hy
  mem_iff := fun _ => mem_append xs ys

/-- the order in which sets are joined does not matter -/
theorem unions_perm {sets sets' : List StringSet} (h : ∀ l ∈ sets, Increasing l) (hperm : sets'.Perm sets) :
    unions sets' = unions sets := by
  have h' : ∀ l ∈ sets', Increasing l := fun l hl => h l (hperm.mem_iff.1 hl)
  refine (increasing_unions h').ext (increasing_unions h) fun s => ?_
  rw [mem_unions, mem_unions]
  exact exists_congr fun l => and_congr_left fun _ => hperm.mem_iff

/-- **The operations on sets of texts.** The union of two increasing lists is the increasing list of what stands in one
of them. So is the union of any number of them, whatever their order. Appending needs the order of the second list only,
and gives the increasing list of what is a text of the first followed by a text of the second. -/
theorem operations_exact :
    (∀ xs ys : StringSet, Increasing xs → Increasing ys → Represents (union xs ys) fun s => s ∈ xs ∨ s ∈ ys) ∧
      (∀ sets : List StringSet, (∀ l ∈ sets, Increasing l) →
        (Represents (unions sets) fun s => ∃ l ∈ sets, s ∈ l) ∧
          ∀ sets' : List StringSet, sets'.Perm sets → unions sets' = unions sets) ∧
      ∀ xs ys : StringSet, Increasing ys →
        Represents (append xs ys) fun s => ∃ x ∈ xs, ∃ y ∈ ys, x ++ y = s := by
  refine ⟨fun xs ys hx hy => represents_union hx hy, fun sets h => ?_, fun xs ys hy => represents_append xs hy⟩
  exact ⟨represents_unions h, fun sets' hperm => unions_perm h hperm⟩

/-- `b` stands in both sets, and `abb` comes from both texts of a list that is out of order -/
theorem operations_exact_overlapping :
    Increasing ["a", "b"] ∧ Increasing ["b", "bb"] ∧ union ["a", "b"] ["b", "bb"] = ["a", "b", "bb"] ∧
      unions [["b", "bb"], ["a", "b"]] = unions [["a", "b"], ["b", "bb"]] ∧
      append ["ab", "a"] ["b", "bb"] = ["ab", "abb", "abbb"] := by
  have hx : Increasing ["a", "b"] := by decide
  have hy : Increasing ["b", "bb"] := by decide
  have hsets : ∀ l ∈ [["a", "b"], ["b", "bb"]], Increasing l := by simp [hx, hy]
  obtain ⟨hunion, hunions, happend⟩ := operations_exact
  refine ⟨hx, hy, ?_, (hunions _ hsets).2 _ (List.Perm.swap _ _ []), ?_⟩
  · refine (hunion _ _ hx hy).unique ⟨by decide, fun s => ?_⟩
    simp only [List.mem_cons, List.not_mem_nil, or_false]
    grind
  · refine (happend ["ab", "a"] _ hy).unique ⟨by decide, fun s => ?_⟩
    simp only [List.mem_cons, List.not_mem_nil, or_false, exists_eq_or_imp, exists_eq_left, String.reduceAppend]
    grind

end GrammarLab.StringSet
