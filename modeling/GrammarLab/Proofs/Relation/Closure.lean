/-
What the passes over a relation find.

Each pass adds rows to rows that may have grown earlier in the same pass, in an order that the schedule chooses, so no two
schedules need know the same pairs in between. Two facts do not depend on the order: all that is known is connected by a
path (`Known.Sound`), and nothing that is known is lost. A pass that adds nothing has gone through rows that did not
change, so what is known then is closed under one more step (`Known.closed_of_quiet`).
- `Known.exists_passes`: after at most as many passes as pairs are missing, one of them adds nothing;
- `links_closureBy`, `mem_loops_closureBy`: the closure relates what paths of one or more steps connect, so its loops are
  the elements that lie on a cycle, whatever the schedule;
- `closureBy_exact`: both, with the number of passes, for every relation given by rows.
-/
import GrammarLab.Proofs.Relation.Rows

namespace GrammarLab.Relation

variable {α : Type} [DecidableEq α] [Hashable α] {r : Relation α} {s : Schedule α} {pass : Nat} {x y : α}

namespace Known

variable {k : Known r} {xs : List α}

/-! ## What every visit keeps -/

/-- all that is known is connected by a path -/
def Sound (k : Known r) : Prop := ∀ x y, y ∈ k.row x → Relation.TransGen r.Links x y

theorem sound_start : (start r).Sound := fun _ _ hy => .single (mem_row_start.1 hy)

theorem Sound.visit (h : k.Sound) : (k.visit s pass x).Sound := by
  intro a y hy
  rcases mem_row_visit.1 hy with hy | ⟨rfl, z, hz, hy⟩
  · exact h a y hy
  · exact (h x z hz).trans (h z y hy)

theorem Sound.visitAll (h : k.Sound) : (k.visitAll s pass xs).1.Sound := by
  induction xs generalizing k with
  | nil => exact h
  | cons x xs ih =>
    rw [visitAll_cons]
    exact ih h.visit

theorem mem_row_visitAll (hy : y ∈ k.row x) : y ∈ (k.visitAll s pass xs).1.row x := by
  induction xs generalizing k with
  | nil => exact hy
  | cons a xs ih =>
    rw [visitAll_cons]
    exact ih (mem_row_visit.2 (Or.inl hy))

/-! ## A pass that adds nothing -/

/-- if no row has grown, every visit has found the rows as they were before the pass -/
theorem closed_of_quiet (h : (k.visitAll s pass xs).2 = false) :
    (∀ x y, y ∈ (k.visitAll s pass xs).1.row x ↔ y ∈ k.row x) ∧
      ∀ x ∈ xs, ∀ z ∈ k.row x, ∀ y ∈ k.row z, y ∈ k.row x := by
  induction xs generalizing k with
  | nil => exact ⟨fun _ _ => Iff.rfl, fun _ hx => absurd hx List.not_mem_nil⟩
  | cons x xs ih =>
    rw [visitAll_cons] at h ⊢
    obtain ⟨hgrown, hmore⟩ := Bool.or_eq_false_iff.1 h
    have hrow : ∀ y ∈ (k.visit s pass x).row x, y ∈ k.row x := by
      simpa only [grown, Std.HashSet.any_toList, Std.HashSet.any_eq_false_iff_forall_mem, Bool.not_eq_false',
        Std.HashSet.contains_iff_mem] using hgrown
    have hsame : ∀ a y, y ∈ (k.visit s pass x).row a ↔ y ∈ k.row a := by
      intro a y
      refine ⟨fun hy => ?_, fun hy => mem_row_visit.2 (Or.inl hy)⟩
      rcases mem_row_visit.1 hy with hya | ⟨rfl, -⟩
      · exact hya
      · exact hrow y hy
    obtain ⟨hlast, hclosed⟩ := ih hmore
    refine ⟨fun a y => (hlast a y).trans (hsame a y), List.forall_mem_cons.2 ⟨fun z hz y hy => ?_, ?_⟩⟩
    · exact hrow y (mem_row_visit.2 (Or.inr ⟨rfl, z, hz, hy⟩))
    · simpa only [hsame] using hclosed

/-! ## Pass after pass -/

/-- what is known after `n` passes, the first of which has the number `pass` -/
def passes (s : Schedule α) (pass : Nat) : Nat → Known r → Known r
  | 0, k => k
  | n + 1, k => passes s (pass + 1) n (k.visitAll s pass r.keys).1

theorem Sound.passes (h : k.Sound) (n : Nat) : (k.passes s pass n).Sound := by
  induction n generalizing k pass with
  | zero => exact h
  | succ n ih => exact ih h.visitAll

theorem mem_row_passes (hy : y ∈ k.row x) (n : Nat) : y ∈ (k.passes s pass n).row x := by
  induction n generalizing k pass with
  | zero => exact hy
  | succ n ih => exact ih (mem_row_visitAll hy)

theorem passes_succ (n : Nat) :
    k.passes s pass (n + 1) = ((k.passes s pass n).visitAll s (pass + n) r.keys).1 := by
  induction n generalizing k pass with
  | zero => rfl
  | succ n ih =>
    have hnext : pass + 1 + n = pass + (n + 1) := by omega
    rw [passes, ih, hnext, ← passes]

/-- **The passes come to an end**: each but the last finds a pair that was missing. -/
theorem exists_passes (s : Schedule α) (pass : Nat) (k : Known r) :
    ∃ n ≤ k.missing, ((k.passes s pass n).visitAll s (pass + n) r.keys).2 = false ∧
      k.saturate s pass = k.passes s pass (n + 1) := by
  fun_induction saturate s pass k with
  | case1 pass k round hmore ih =>
    obtain ⟨n, hn, hquiet, hlast⟩ := ih
    have hlt : round.1.missing < k.missing := (missing_visitAll fun _ h => h).2 hmore
    have hnext : pass + 1 + n = pass + (n + 1) := by omega
    exact ⟨n + 1, by omega, by rw [← hnext]; exact hquiet, hlast⟩
  | case2 pass k round hquiet => exact ⟨0, Nat.zero_le _, Bool.eq_false_iff.2 hquiet, rfl⟩

theorem missing_le (k : Known r) : k.missing ≤ r.keys.length * r.elements.length := by
  refine Nat.le_trans List.countP_le_length (Nat.le_of_eq ?_)
  simp [List.length_flatMap]

end Known

/-! ## The closure -/

/-- the passes end with the pairs that paths of one or more steps connect -/
theorem mem_row_saturate (h : r.Coherent) :
    y ∈ ((Known.start r).saturate s pass).row x ↔ Relation.TransGen r.Links x y := by
  obtain ⟨n, -, hquiet, hlast⟩ := Known.exists_passes s pass (Known.start r)
  obtain ⟨hsame, hclosed⟩ := Known.closed_of_quiet hquiet
  rw [hlast, Known.passes_succ, hsame]
  constructor
  · exact Known.sound_start.passes n x y
  · intro path
    have hlink : ∀ {x y}, r.Links x y → y ∈ ((Known.start r).passes s pass n).row x := fun link =>
      Known.mem_row_passes (Known.mem_row_start.2 link) n
    induction path using Relation.TransGen.head_induction_on with
    | single link => exact hlink link
    | head link _ ih => exact hclosed _ (h.mem_keys_of_links link) _ (hlink link) _ ih

theorem keys_closureBy (h : r.Coherent) : (r.closureBy s).keys = r.keys := keys_tabulate h.nodup _

/-- **The closure relates what paths of one or more steps connect**, whatever the schedule. -/
theorem links_closureBy (h : r.Coherent) : (r.closureBy s).Links x y ↔ Relation.TransGen r.Links x y := by
  have hkey : Relation.TransGen r.Links x y → x ∈ r.keys := fun path =>
    h.mem_keys_of_links (Relation.TransGen.head'_iff.1 path).choose_spec.1
  rw [closureBy, links_tabulate h.nodup, Std.HashSet.mem_toList, mem_row_saturate h]
  exact ⟨And.right, fun path => ⟨hkey path, path⟩⟩

/-- **The loops of the closure are the elements on a cycle.** -/
theorem mem_loops_closureBy (h : r.Coherent) : x ∈ (r.closureBy s).loops ↔ Relation.TransGen r.Links x x := by
  rw [← links_closureBy (s := s) h, loops, List.mem_filter, List.contains_iff_mem]
  exact ⟨And.right, fun link => ⟨(coherent_ofList _).mem_keys_of_links link, link⟩⟩

/-- **The closure of a relation, with every schedule.** The passes come to an end: one that adds nothing comes after at
most as many as there are pairs of a key and an element, and its result is the closure. The closure keeps the keys in
their order, relates each to what paths of one or more steps lead to, and has as its loops the keys on a cycle. Neither
the rows' order nor the order of the elements in a row matters, since paths do not depend on them. -/
theorem closureBy_exact (rows : List (α × List α)) (s : Schedule α) :
    let r := ofList rows
    (∃ n ≤ r.keys.length * r.elements.length,
        (((Known.start r).passes s 0 n).visitAll s n r.keys).2 = false ∧
          (Known.start r).saturate s 0 = (Known.start r).passes s 0 (n + 1)) ∧
      (r.closureBy s).keys = r.keys ∧
      (∀ x y, y ∈ (r.closureBy s).targets x ↔ Relation.TransGen (fun x y => y ∈ r.targets x) x y) ∧
      ∀ x, x ∈ (r.closureBy s).loops ↔ x ∈ r.keys ∧ Relation.TransGen (fun x y => y ∈ r.targets x) x x := by
  intro r
  have h : r.Coherent := coherent_ofList rows
  obtain ⟨n, hn, hquiet, hlast⟩ := Known.exists_passes s 0 (Known.start r)
  rw [Nat.zero_add] at hquiet
  have hbound : n ≤ r.keys.length * r.elements.length := Nat.le_trans hn (Known.missing_le _)
  refine ⟨⟨n, hbound, hquiet, hlast⟩, keys_closureBy h, fun x y => links_closureBy h, fun x => ?_⟩
  rw [mem_loops_closureBy h]
  refine ⟨fun path => ⟨?_, path⟩, And.right⟩
  exact h.mem_keys_of_links (Relation.TransGen.head'_iff.1 path).choose_spec.1

end GrammarLab.Relation
