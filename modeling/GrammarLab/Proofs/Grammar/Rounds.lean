/-
What the rounds of the two iterations hold.

The analysis finds the unrealizable nonterminals by striking off suspects and the nullable ones by collecting them. Seen
from the trees both are the same: a nonterminal has a tree with one level more just if some alternative of it is made of
symbols that have trees (`low_succ_iff`), for trees of any kind that a node belongs to with all its children.
- `rounds_unrealizable`, `rounds_nullable`: after `n` rounds the suspects are the nonterminals without a derivation tree
  of at most `n + 1` levels, and those found to vanish are the ones with such a tree that has no leaf;
- `Low.length`: a tree need not have more than one level more than there are nonterminals. Each level up to the first
  that brings no new nonterminal brings one, so that comes before the nonterminals run out (`exists_settled`);
- `iterate_unrealizableStep_iff`, `iterate_nullableStep_iff`: so each iteration ends, if the bound allows, at a level
  above which no level brings anything.
-/
import GrammarLab.Grammar.Analysis
import GrammarLab.Proofs.Tree.Derivation
import Mathlib.Logic.Function.Iterate

namespace GrammarLab.Grammar

/-! ## Iterations -/

section

variable {step : List Symbol → List Symbol} {l start : List Symbol}

theorem fixpoint_succ (bound : Nat) :
    fixpoint (.error .tooManySteps : Except AnalysisError _) (fun l => .ok (step l)) (bound + 1) l =
      if step l = l then .ok l else fixpoint (.error .tooManySteps) (fun l => .ok (step l)) bound (step l) := rfl

/-- an iteration ends in what some number of steps, less than the bound, leads to and one more step leaves as it is -/
theorem iterate_eq_ok_iff : iterate step start = .ok l ↔ ∃ n < fixpointBound, step^[n] start = l ∧ step l = l := by
  unfold iterate
  generalize fixpointBound = bound
  induction bound generalizing start with
  | zero =>
    constructor
    · intro h
      cases h
    · rintro ⟨n, hn, -⟩
      exact absurd hn (Nat.not_lt_zero n)
  | succ bound ih =>
    rw [fixpoint_succ]
    split_ifs with hstep
    · constructor
      · intro h
        obtain rfl := Except.ok.inj h
        exact ⟨0, Nat.succ_pos bound, rfl, hstep⟩
      · rintro ⟨n, -, rfl, -⟩
        rw [Function.iterate_fixed hstep]
    · rw [ih]
      constructor
      · rintro ⟨n, hn, hl⟩
        exact ⟨n + 1, Nat.succ_lt_succ hn, hl⟩
      · rintro ⟨n, hn, rfl, hend⟩
        cases n with
        | zero => exact absurd hend hstep
        | succ n => exact ⟨n, Nat.lt_of_succ_lt_succ hn, rfl, hend⟩

end

/-! ## The two steps, said of symbols -/

section

variable {g : Grammar}

theorem Built.namesOf_eq_filter (hb : g.Built) (p : Rule → Bool) :
    g.namesOf p = g.names.filter fun s => p ⟨s, g.alternatives s⟩ := by
  have hrule : ∀ r ∈ g.rules, (fun s => p ⟨s, g.alternatives s⟩) r.name = p r := by
    intro r hr
    simp only [hb.alternatives_of_mem hr]
  rw [namesOf, names, List.filter_map]
  exact congrArg _ (List.filter_congr fun r hr => (hrule r hr).symm)

theorem Built.unrealizableStep_eq (hb : g.Built) (l : List Symbol) :
    g.unrealizableStep l =
      g.names.filter fun s => s ∈ l ∧ ∀ rhs ∈ g.alternatives s, ∃ a ∈ rhs, a ∈ l := by
  rw [unrealizableStep, hb.namesOf_eq_filter]
  refine List.filter_congr fun s _ => ?_
  rw [Bool.eq_iff_iff]
  simp

theorem Built.nullableStep_eq (hb : g.Built) (l : List Symbol) :
    g.nullableStep l = g.names.filter fun s => s ∈ l ∨ ∃ rhs ∈ g.alternatives s, ∀ a ∈ rhs, a ∈ l := by
  rw [nullableStep, hb.namesOf_eq_filter]
  refine List.filter_congr fun s _ => ?_
  rw [Bool.eq_iff_iff]
  simp

end

/-! ## Low trees -/

/-- a node is of the kind just if all its children are -/
def Hereditary (kind : ParseTree → Prop) : Prop := ∀ s cs, kind (.node s cs) ↔ ∀ c ∈ cs, kind c

theorem hereditary_any : Hereditary fun _ => True := fun _ _ => by simp

theorem hereditary_leafless : Hereditary fun t => t.leaves = [] := fun s cs => by
  simp only [ParseTree.leaves_node, List.flatMap_eq_nil_iff]

/-- the symbol has a valid tree of the kind with at most `n + 1` levels -/
def Low (g : Grammar) (kind : ParseTree → Prop) (n : Nat) (s : Symbol) : Prop :=
  ∃ t, t.symbol = s ∧ g.Valid t ∧ kind t ∧ t.height ≤ n + 1

/-- no nonterminal needs one level more than `n + 1` for a tree of the kind -/
def Settled (g : Grammar) (kind : ParseTree → Prop) (n : Nat) : Prop := ∀ s, g.Low kind (n + 1) s → g.Low kind n s

section

variable {g : Grammar} {kind : ParseTree → Prop} {n m : Nat} {s : Symbol}

theorem Low.mono (h : g.Low kind n s) (hnm : n ≤ m) : g.Low kind m s := by
  obtain ⟨t, hs, hvalid, hkind, hheight⟩ := h
  exact ⟨t, hs, hvalid, hkind, by omega⟩

theorem low_terminal_iff (hs : s ∉ g.names) : g.Low kind n s ↔ kind (.leaf s) := by
  constructor
  · rintro ⟨t, rfl, hvalid, hkind, -⟩
    cases t with
    | leaf a => exact hkind
    | node a cs => exact absurd hvalid.mem_names hs
  · intro hkind
    exact ⟨.leaf s, rfl, valid_leaf_iff.2 hs, hkind, by simp [ParseTree.height]⟩

/-- for a terminal the number of levels does not matter -/
theorem Low.terminal (h : g.Low kind m s) (hs : s ∉ g.names) : g.Low kind n s :=
  (low_terminal_iff hs).2 ((low_terminal_iff hs).1 h)

theorem low_iff (hs : s ∈ g.names) : g.Low kind n s ↔ ∃ t, g.Derivation s t ∧ kind t ∧ t.height ≤ n + 1 := by
  constructor
  · rintro ⟨t, rfl, hvalid, hrest⟩
    exact ⟨t, hvalid.derivation hs, hrest⟩
  · rintro ⟨t, ht, hrest⟩
    exact ⟨t, ht.symbol_eq, ht.valid, hrest⟩

theorem low_height {t : ParseTree} (ht : g.Derivation s t) (hk : kind t) : g.Low kind t.height s :=
  ⟨t, ht.symbol_eq, ht.valid, hk, Nat.le_succ _⟩

theorem not_low_zero (hs : s ∈ g.names) : ¬ g.Low kind 0 s := by
  rintro ⟨t, rfl, hvalid, -, hheight⟩
  cases t with
  | leaf a => exact valid_leaf_iff.1 hvalid hs
  | node a cs =>
    have := ParseTree.two_le_height_node a cs
    omega

/-- a nonterminal has a tree with one level more just if the symbols of an alternative have trees -/
theorem low_succ_iff (hkind : Hereditary kind) (hs : s ∈ g.names) :
    g.Low kind (n + 1) s ↔ ∃ rhs ∈ g.alternatives s, ∀ a ∈ rhs, g.Low kind n a := by
  constructor
  · rintro ⟨t, rfl, hvalid, hk, hheight⟩
    cases t with
    | leaf a => exact absurd hs (valid_leaf_iff.1 hvalid)
    | node a cs =>
      refine ⟨_, hvalid.rule_mem, fun b hb => ?_⟩
      obtain ⟨c, hc, rfl⟩ := List.mem_map.1 hb
      exact ⟨c, rfl, hvalid.of_mem hc, (hkind a cs).1 hk c hc, (ParseTree.height_node_le_iff a cs n).1 hheight c hc⟩
  · rintro ⟨rhs, hrhs, hall⟩
    obtain ⟨cs, rfl, hcs⟩ := exists_trees (P := fun t => g.Valid t ∧ kind t ∧ t.height ≤ n + 1) hall
    exact ⟨.node s cs, rfl, .node hrhs fun c hc => (hcs c hc).1, (hkind s cs).2 fun c hc => (hcs c hc).2.1,
      (ParseTree.height_node_le_iff s cs n).2 fun c hc => (hcs c hc).2.2⟩

/-- above a level that brings nothing no level brings anything -/
theorem Settled.low (hkind : Hereditary kind) (h : g.Settled kind n) (hlow : g.Low kind m s) : g.Low kind n s := by
  induction m generalizing s with
  | zero => exact hlow.mono (Nat.zero_le n)
  | succ m ih =>
    by_cases hs : s ∈ g.names
    · obtain ⟨rhs, hrhs, hall⟩ := (low_succ_iff hkind hs).1 hlow
      exact h s ((low_succ_iff hkind hs).2 ⟨rhs, hrhs, fun a ha => ih (hall a ha)⟩)
    · exact hlow.terminal hs

open Classical in
/-- as long as every level brings a nonterminal, there are as many as levels -/
theorem settled_or_le_countP (g : Grammar) (kind : ParseTree → Prop) (n : Nat) :
    (∃ m < n, g.Settled kind m) ∨ n ≤ g.names.countP fun s => g.Low kind n s := by
  induction n with
  | zero => exact Or.inr (Nat.zero_le _)
  | succ n ih =>
    rcases ih with ⟨m, hm, hsettled⟩ | hle
    · exact Or.inl ⟨m, Nat.lt_succ_of_lt hm, hsettled⟩
    · by_cases hsettled : g.Settled kind n
      · exact Or.inl ⟨n, Nat.lt_succ_self n, hsettled⟩
      · simp only [Settled, not_forall] at hsettled
        obtain ⟨s, hlow, hnew⟩ := hsettled
        have hs : s ∈ g.names := by
          by_contra hs
          exact hnew (hlow.terminal hs)
        have hlt : g.names.countP (fun s => g.Low kind n s) < g.names.countP (fun s => g.Low kind (n + 1) s) :=
          Relation.countP_lt (fun a _ ha => by simpa using Low.mono (by simpa using ha) (Nat.le_succ n)) hs
            (by simpa using hnew) (by simpa using hlow)
        exact Or.inr (Nat.le_trans (Nat.succ_le_succ hle) hlt)

theorem exists_settled (g : Grammar) (kind : ParseTree → Prop) : ∃ n ≤ g.names.length, g.Settled kind n := by
  classical
  rcases settled_or_le_countP g kind (g.names.length + 1) with ⟨m, hm, hsettled⟩ | hle
  · exact ⟨m, Nat.le_of_lt_succ hm, hsettled⟩
  · exact absurd (Nat.le_trans hle List.countP_le_length) (Nat.not_succ_le_self _)

/-- at a level above which nothing is brought, what has a low tree is what has a tree -/
theorem Settled.low_iff_exists (hkind : Hereditary kind) (h : g.Settled kind n) (hs : s ∈ g.names) :
    g.Low kind n s ↔ ∃ t, g.Derivation s t ∧ kind t := by
  rw [low_iff hs]
  constructor
  · rintro ⟨t, ht, hk, -⟩
    exact ⟨t, ht, hk⟩
  · rintro ⟨t, ht, hk⟩
    exact (low_iff hs).1 (h.low hkind (low_height ht hk))

/-- **What has a tree has a low tree**: one level more than there are nonterminals is enough. -/
theorem Low.length (hkind : Hereditary kind) (h : g.Low kind n s) : g.Low kind g.names.length s := by
  obtain ⟨m, hm, hsettled⟩ := exists_settled g kind
  exact (hsettled.low hkind h).mono hm

/-! ## Rounds -/

open Classical in
/-- **The suspects after `n` rounds** are the nonterminals without a derivation tree of at most `n + 1` levels. -/
theorem rounds_unrealizable (hb : g.Built) (n : Nat) :
    g.unrealizableStep^[n] g.names = g.names.filter fun s => ¬ g.Low (fun _ => True) n s := by
  induction n with
  | zero => exact (List.filter_eq_self.2 fun s hs => by simpa using not_low_zero hs).symm
  | succ n ih =>
    rw [Function.iterate_succ_apply', ih, hb.unrealizableStep_eq]
    refine List.filter_congr fun s hs => decide_eq_decide.2 ?_
    have hsuspect : ∀ a, a ∈ g.names.filter (fun s => ¬ g.Low (fun _ => True) n s) ↔ ¬ g.Low (fun _ => True) n a := by
      intro a
      simp only [List.mem_filter, decide_eq_true_eq, and_iff_right_iff_imp]
      intro ha
      by_contra hname
      exact ha ((low_terminal_iff hname).2 trivial)
    have hnext : (∀ rhs ∈ g.alternatives s, ∃ a ∈ rhs, ¬ g.Low (fun _ => True) n a) ↔
        ¬ g.Low (fun _ => True) (n + 1) s := by
      rw [low_succ_iff hereditary_any hs]
      simp only [not_exists, not_and, not_forall, exists_prop]
    simp only [hsuspect, hnext, and_iff_right_iff_imp]
    exact fun hno hlow => hno (hlow.mono (Nat.le_succ n))

open Classical in
/-- **What is found to vanish after `n` rounds** are the nonterminals with a leafless tree of at most `n + 1` levels. -/
theorem rounds_nullable (hb : g.Built) (n : Nat) :
    g.nullableStep^[n] [] = g.names.filter fun s => g.Low (fun t => t.leaves = []) n s := by
  induction n with
  | zero => exact (List.filter_eq_nil_iff.2 fun s hs => by simpa using not_low_zero hs).symm
  | succ n ih =>
    rw [Function.iterate_succ_apply', ih, hb.nullableStep_eq]
    refine List.filter_congr fun s hs => decide_eq_decide.2 ?_
    have hfound : ∀ a, a ∈ g.names.filter (fun s => g.Low (fun t => t.leaves = []) n s) ↔
        g.Low (fun t => t.leaves = []) n a := by
      intro a
      simp only [List.mem_filter, decide_eq_true_eq, and_iff_right_iff_imp]
      intro ha
      by_contra hname
      simpa using (low_terminal_iff hname).1 ha
    simp only [hfound, ← low_succ_iff hereditary_leafless hs, or_iff_right_iff_imp]
    exact fun hlow => hlow.mono (Nat.le_succ n)

/-- an iteration whose rounds are known ends in the first that the next one does not change, if the bound allows -/
theorem iterate_eq_ok_iff_of_rounds {step : List Symbol → List Symbol} {l start : List Symbol}
    {holds : Nat → Symbol → Bool} (hrounds : ∀ n, step^[n] start = g.names.filter (holds n)) :
    iterate step start = .ok l ↔
      ∃ n < fixpointBound, (∀ s ∈ g.names, holds (n + 1) s = holds n s) ∧ l = g.names.filter (holds n) := by
  have hstep : ∀ n, step (step^[n] start) = step^[n] start ↔ ∀ s ∈ g.names, holds (n + 1) s = holds n s := by
    intro n
    rw [← Function.iterate_succ_apply' step, hrounds, hrounds]
    constructor
    · intro h s hs
      have hmem : s ∈ g.names.filter (holds (n + 1)) ↔ s ∈ g.names.filter (holds n) := by rw [h]
      rw [List.mem_filter, List.mem_filter, and_iff_right hs, and_iff_right hs] at hmem
      exact Bool.eq_iff_iff.2 hmem
    · exact List.filter_congr
  rw [iterate_eq_ok_iff]
  constructor
  · rintro ⟨n, hn, rfl, hend⟩
    exact ⟨n, hn, (hstep n).1 hend, hrounds n⟩
  · rintro ⟨n, hn, hsame, rfl⟩
    exact ⟨n, hn, hrounds n, hrounds n ▸ (hstep n).2 hsame⟩

theorem settled_iff : g.Settled kind n ↔ ∀ s ∈ g.names, g.Low kind (n + 1) s ↔ g.Low kind n s := by
  constructor
  · intro h s _
    exact ⟨h s, fun hlow => hlow.mono (Nat.le_succ n)⟩
  · intro h s hlow
    by_cases hs : s ∈ g.names
    · exact (h s hs).1 hlow
    · exact hlow.terminal hs

open Classical in
/-- **When the suspects are found, and who they are** -/
theorem iterate_unrealizableStep_iff (hb : g.Built) {l : List Symbol} :
    iterate g.unrealizableStep g.names = .ok l ↔ ∃ n < fixpointBound,
      g.Settled (fun _ => True) n ∧ l = g.names.filter fun s => ¬ g.Low (fun _ => True) n s := by
  rw [iterate_eq_ok_iff_of_rounds (rounds_unrealizable hb)]
  simp only [settled_iff, decide_eq_decide, not_iff_not]

open Classical in
/-- **When the vanishing nonterminals are found, and who they are** -/
theorem iterate_nullableStep_iff (hb : g.Built) {l : List Symbol} :
    iterate g.nullableStep [] = .ok l ↔ ∃ n < fixpointBound,
      g.Settled (fun t => t.leaves = []) n ∧ l = g.names.filter fun s => g.Low (fun t => t.leaves = []) n s := by
  rw [iterate_eq_ok_iff_of_rounds (rounds_nullable hb)]
  simp only [settled_iff, decide_eq_decide]

end

end GrammarLab.Grammar
