/-
The size limit of an enumeration.

`Grammar.spentAfter` adds up the sizes of the trees that some number of rounds produce if no limit applies. Nothing else
decides how far an enumeration goes, whatever it is asked to do.
- `Reached.accounted`: what has been spent is the cost of the rounds that succeeded, or more than the limit once one has
  failed;
- `Reached.grown_iff`: so, with a limit that is not negative, the round after `n` that succeeded succeeds if and only if
  the limit covers `spentAfter (n + 1)`, also after rounds that failed;
- `calls_of_stuck`: a round that fails changes nothing that can be asked for, and no round after it succeeds;
- `depth_expandTo_eq`: a run from the start ends at the least of the depth asked for, the first depth whose round adds
  nothing, and the greatest depth that the limit covers;
- `size_limit_exact`: the three together, for every sequence of calls.
-/
import GrammarLab.Proofs.Derivation.Completion
import Mathlib.Algebra.BigOperators.Group.Finset.Basic
import Mathlib.Algebra.Order.BigOperators.Group.Finset
import Mathlib.Data.ENat.Lattice
import Mathlib.Order.CompletePartialOrder

namespace GrammarLab

/-! ## What rounds cost if no limit applies -/

namespace Grammar

/-- the sum of the sizes of the trees of all nonterminals that `n` rounds produce -/
def sizeAfter (g : Grammar) (n : Nat) : Nat :=
  (g.names.map fun s => ((g.treesAfter n s).map ParseTree.size).sum).sum

/-- the sum of the sizes of all trees that are built in the first `n` rounds -/
def spentAfter (g : Grammar) (n : Nat) : Nat := ∑ k ∈ Finset.range n, g.sizeAfter (k + 1)

theorem spentAfter_zero (g : Grammar) : g.spentAfter 0 = 0 := rfl

theorem spentAfter_succ (g : Grammar) (n : Nat) : g.spentAfter (n + 1) = g.spentAfter n + g.sizeAfter (n + 1) :=
  Finset.sum_range_succ _ n

theorem spentAfter_mono {g : Grammar} {m n : Nat} (h : m ≤ n) : g.spentAfter m ≤ g.spentAfter n :=
  Finset.sum_le_sum_of_subset (Finset.range_mono h)

/-- the first depth whose round adds no tree, `⊤` if every round adds one -/
noncomputable def settledDepth (g : Grammar) : ℕ∞ :=
  ⨅ (n : Nat) (_ : 0 < n ∧ g.countAfter n = g.countAfter (n - 1)), (n : ℕ∞)

/-- the greatest depth down to which the limit covers all rounds, `⊤` if it covers all there are -/
noncomputable def coveredDepth (g : Grammar) (limit : Int) : ℕ∞ :=
  ⨆ (n : Nat) (_ : (g.spentAfter n : Int) ≤ limit), (n : ℕ∞)

theorem natCast_le_settledDepth_iff {g : Grammar} {d : Nat} :
    (d : ℕ∞) ≤ g.settledDepth ↔ ∀ n, 0 < n → g.countAfter n = g.countAfter (n - 1) → d ≤ n := by
  simp [settledDepth, le_iInf_iff]

theorem natCast_le_coveredDepth_iff {g : Grammar} {limit : Int} (h0 : 0 ≤ limit) {d : Nat} :
    (d : ℕ∞) ≤ g.coveredDepth limit ↔ (g.spentAfter d : Int) ≤ limit := by
  constructor
  · intro h
    cases d with
    | zero => simpa [spentAfter_zero] using h0
    | succ d =>
      have hlt : (d : ℕ∞) < g.coveredDepth limit := lt_of_lt_of_le (by exact_mod_cast Nat.lt_succ_self d) h
      simp only [coveredDepth, lt_iSup_iff, Nat.cast_lt] at hlt
      obtain ⟨n, hn, hdn⟩ := hlt
      have hmono : g.spentAfter (d + 1) ≤ g.spentAfter n := spentAfter_mono hdn
      omega
  · intro h
    exact le_iSup₂_of_le d h le_rfl

end Grammar

namespace Enumerator

variable {g : Grammar} {limit : Int} {n : Nat} {e : Enumerator}

/-! ## When a round succeeds -/

/-- the trees that the next round builds are those that one more round produces -/
theorem Reached.sum_harvest (hb : g.Built) (h : Reached g limit n e) :
    (e.harvest.map ParseTree.size).sum = g.sizeAfter (n + 1) := by
  obtain ⟨hg, htable⟩ := h.table_eq hb
  have hbuilt : ∀ r ∈ g.rules, ((e.built r).map ParseTree.size).sum =
      ((g.treesAfter (n + 1) r.name).map ParseTree.size).sum := by
    intro r hr
    rw [built_of_table hb htable hr]
    rfl
  rw [harvest, hg, List.map_flatMap, List.flatMap_def, List.sum_flatten, List.map_map, Grammar.sizeAfter, Grammar.names,
    List.map_map]
  exact congrArg List.sum (List.map_congr_left hbuilt)

/-- the account after `n` rounds that succeeded: the limit covers them, and what has been spent is their cost, unless a
round has failed; then it is more than the limit, and the limit does not cover one round more -/
structure Accounted (g : Grammar) (limit : Int) (n : Nat) (e : Enumerator) : Prop where
  covered : (g.spentAfter n : Int) ≤ limit
  spent : e.spent = g.spentAfter n ∨ limit < e.spent ∧ limit < (g.spentAfter (n + 1) : Int)

theorem Accounted.grown_iff (hb : g.Built) (h : Reached g limit n e) (account : Accounted g limit n e) :
    e.expand.grown = true ↔ (g.spentAfter (n + 1) : Int) ≤ limit := by
  have hsum := h.sum_harvest hb
  have hnext := g.spentAfter_succ n
  have hcovered := account.covered
  rw [Enumerator.grown_iff, Fits, h.limit_eq, hsum]
  constructor
  · rintro (hnil | hfits)
    · -- nothing is built, so one round more costs nothing
      have hzero : g.sizeAfter (n + 1) = 0 := by rw [← hsum, hnil]; rfl
      omega
    · rcases account.spent with hspent | ⟨hpast, -⟩
      · omega
      · omega
  · intro hle
    rcases account.spent with hspent | ⟨-, hover⟩
    · exact Or.inr (by omega)
    · omega

/-- the account holds after any rounds -/
theorem Reached.accounted (hb : g.Built) (h0 : 0 ≤ limit) (h : Reached g limit n e) : Accounted g limit n e := by
  induction h with
  | start => exact ⟨by simpa [Grammar.spentAfter_zero] using h0, Or.inl rfl⟩
  | @grown n e before success ih =>
    have hcovered := (ih.grown_iff hb before).1 success
    obtain ⟨-, -, -, -, hcost, -⟩ := expand_of_grown success
    rw [before.sum_harvest hb] at hcost
    refine ⟨hcovered, Or.inl ?_⟩
    rcases ih.spent with hspent | ⟨-, hover⟩
    · rw [hcost, hspent, g.spentAfter_succ]
    · omega
  | @failed n e before failure ih =>
    have hover : ¬ (g.spentAfter (n + 1) : Int) ≤ limit := fun hle => by simp [(ih.grown_iff hb before).2 hle] at failure
    obtain ⟨spent, hpast, hstuck, -⟩ := expand_of_not_grown failure
    rw [before.limit_eq] at hpast
    rw [hstuck]
    exact ⟨ih.covered, Or.inr ⟨hpast, not_le.1 hover⟩⟩

/-- **When a round succeeds**: if and only if the limit covers it together with all rounds that succeeded before, whatever
rounds failed. -/
theorem Reached.grown_iff (hb : g.Built) (h0 : 0 ≤ limit) (h : Reached g limit n e) :
    e.expand.grown = true ↔ (g.spentAfter (n + 1) : Int) ≤ limit :=
  (h.accounted hb h0).grown_iff hb h

/-! ## Calls -/

/-- what may be asked of an enumeration -/
inductive Call where
  | expand
  | expandTo (depth : Int)
deriving DecidableEq, Repr

/-- the enumeration after a call -/
def call (e : Enumerator) : Call → Enumerator
  | .expand => e.expand.enumerator
  | .expandTo depth => (e.expandTo depth).1

/-- the enumeration after some calls, one after another -/
def calls (e : Enumerator) (script : List Call) : Enumerator := script.foldl call e

theorem calls_cons (e : Enumerator) (c : Call) (script : List Call) : e.calls (c :: script) = (e.call c).calls script := rfl

/-- a run of rounds is so many single rounds -/
theorem exists_calls_eq_expandTimes (k : Nat) :
    ∀ e : Enumerator, ∃ j, (expandTimes k e).1 = e.calls (List.replicate j .expand) := by
  induction k with
  | zero => intro e; exact ⟨0, rfl⟩
  | succ k ih =>
    intro e
    by_cases hdone : e.finished = true
    · exact ⟨0, by rw [expandTimes_of_finished hdone]; rfl⟩
    · cases hgrown : e.expand.grown with
      | false => exact ⟨1, by rw [expandTimes_of_not_grown hdone hgrown]; rfl⟩
      | true =>
        obtain ⟨j, hj⟩ := ih e.expand.enumerator
        exact ⟨j + 1, by rw [expandTimes_of_grown hdone hgrown, hj]; rfl⟩

/-- every sequence of calls is a sequence of single rounds -/
theorem exists_calls_eq (script : List Call) :
    ∀ e : Enumerator, ∃ j, e.calls script = e.calls (List.replicate j .expand) := by
  induction script with
  | nil => intro e; exact ⟨0, rfl⟩
  | cons c script ih =>
    intro e
    obtain ⟨i, hi⟩ : ∃ i, e.call c = e.calls (List.replicate i .expand) := by
      cases c with
      | expand => exact ⟨1, rfl⟩
      | expandTo depth => exact exists_calls_eq_expandTimes _ e
    obtain ⟨j, hj⟩ := ih (e.call c)
    refine ⟨i + j, ?_⟩
    rw [calls_cons, hj, hi, calls, calls, calls, ← List.foldl_append, List.replicate_append_replicate]

theorem Reached.expand (h : Reached g limit n e) : ∃ m, Reached g limit m e.expand.enumerator := by
  cases hgrown : e.expand.grown with
  | true => exact ⟨n + 1, h.grown hgrown⟩
  | false => exact ⟨n, h.failed hgrown⟩

/-- whatever an enumeration is asked to do, it stays one that rounds lead to -/
theorem Reached.calls (h : Reached g limit n e) (script : List Call) : ∃ m, Reached g limit m (e.calls script) := by
  obtain ⟨j, hj⟩ := exists_calls_eq script e
  rw [hj]
  clear hj
  induction j generalizing n e with
  | zero => exact ⟨n, h⟩
  | succ j ih =>
    obtain ⟨m, hm⟩ := h.expand
    exact ih hm

/-- where the limit does not cover another round, no call changes anything but the sum of sizes -/
theorem calls_of_stuck (hb : g.Built) (h0 : 0 ≤ limit) (h : Reached g limit n e)
    (hover : limit < (g.spentAfter (n + 1) : Int)) (script : List Call) :
    ∃ spent, e.calls script = { e with spent } ∧ Reached g limit n (e.calls script) := by
  obtain ⟨j, hj⟩ := exists_calls_eq script e
  rw [hj]
  clear hj
  induction j generalizing e with
  | zero => exact ⟨e.spent, rfl, h⟩
  | succ j ih =>
    have hgrown : e.expand.grown = false := Bool.eq_false_iff.2 fun hgrown => by
      have := (h.grown_iff hb h0).1 hgrown
      omega
    obtain ⟨spent, -, hstuck, -⟩ := expand_of_not_grown hgrown
    obtain ⟨last, heq, hreached⟩ := ih (h.failed hgrown)
    refine ⟨last, ?_, hreached⟩
    show (e.expand.enumerator).calls (List.replicate j .expand) = { e with spent := last }
    rw [heq, hstuck]

/-! ## How deep a run goes -/

/-- an enumeration is finished just if one of its rounds added nothing -/
theorem Reached.finished_iff_exists (hb : g.Built) (h : Reached g limit n e) :
    e.finished = true ↔ ∃ m, 0 < m ∧ m ≤ n ∧ g.countAfter m = g.countAfter (m - 1) := by
  rw [h.finished_iff hb]
  constructor
  · rintro ⟨k, rfl, hshallow⟩
    exact ⟨k + 1, Nat.succ_pos k, le_rfl, Grammar.countAfter_eq_iff_shallow.2 hshallow⟩
  · rintro ⟨m, hpos, hle, hsame⟩
    obtain ⟨k, rfl⟩ := Nat.exists_eq_succ_of_ne_zero hpos.ne'
    have hshallow : g.Shallow k := Grammar.countAfter_eq_iff_shallow.1 hsame
    exact ⟨n - 1, by omega, hshallow.mono (by omega)⟩

/-- a run goes on from a depth: every round down to it added something, and the limit covers one round more -/
def GoesOn (g : Grammar) (limit : Int) (n : Nat) : Prop :=
  (∀ m, 0 < m → m ≤ n → g.countAfter m ≠ g.countAfter (m - 1)) ∧ (g.spentAfter (n + 1) : Int) ≤ limit

theorem Reached.goesOn_iff (hb : g.Built) (h0 : 0 ≤ limit) (h : Reached g limit n e) :
    GoesOn g limit n ↔ ¬ e.finished = true ∧ e.expand.grown = true := by
  rw [GoesOn, h.finished_iff_exists hb, h.grown_iff hb h0]
  simp only [not_exists, not_and, ne_eq]

/-- a run goes down round by round while it can go on, and stops at the depth asked for or where it cannot -/
theorem Reached.depth_expandTimes (hb : g.Built) (h0 : 0 ≤ limit) (k : Nat) (h : Reached g limit n e) :
    ∃ last, (Enumerator.expandTimes k e).1.depth = last ∧ n ≤ last ∧ last ≤ n + k ∧
      (∀ i, n ≤ i → i < last → GoesOn g limit i) ∧ (last = n + k ∨ ¬ GoesOn g limit last) := by
  induction k generalizing n e with
  | zero => exact ⟨n, h.depth_eq, le_rfl, le_rfl, fun i hi hlt => by omega, Or.inl rfl⟩
  | succ k ih =>
    have hgoes := h.goesOn_iff hb h0
    by_cases hdone : e.finished = true
    · refine ⟨n, ?_, le_rfl, by omega, fun i hi hlt => by omega, Or.inr fun hgo => (hgoes.1 hgo).1 hdone⟩
      rw [expandTimes_of_finished hdone, h.depth_eq]
    · cases hgrown : e.expand.grown with
      | false =>
        refine ⟨n, ?_, le_rfl, by omega, fun i hi hlt => by omega, Or.inr fun hgo => ?_⟩
        · rw [expandTimes_of_not_grown hdone hgrown, (h.failed hgrown).depth_eq]
        · rw [(hgoes.1 hgo).2] at hgrown
          cases hgrown
      | true =>
        obtain ⟨last, hdepth, hle, hasked, hall, hstop⟩ := ih (h.grown hgrown)
        refine ⟨last, by rw [expandTimes_of_grown hdone hgrown, hdepth], by omega, by omega, fun i hi hlt => ?_, ?_⟩
        · rcases Nat.eq_or_lt_of_le hi with heq | hi
          · exact heq ▸ hgoes.2 ⟨hdone, hgrown⟩
          · exact hall i hi hlt
        · rcases hstop with hstop | hstop
          · exact Or.inl (by omega)
          · exact Or.inr hstop

/-- a run can go on from every depth above a given one just if that is no deeper than the first round that adds nothing
and than the limit covers -/
theorem forall_goesOn_iff (h0 : 0 ≤ limit) {d : Nat} :
    (∀ i, i < d → GoesOn g limit i) ↔ (d : ℕ∞) ≤ g.settledDepth ∧ (d : ℕ∞) ≤ g.coveredDepth limit := by
  rw [Grammar.natCast_le_settledDepth_iff, Grammar.natCast_le_coveredDepth_iff h0]
  constructor
  · intro hall
    constructor
    · intro m hpos hsame
      by_contra hlt
      exact (hall m (by omega)).1 m hpos le_rfl hsame
    · cases d with
      | zero => simpa [Grammar.spentAfter_zero] using h0
      | succ d => exact (hall d (Nat.lt_succ_self d)).2
  · rintro ⟨hsettled, hcovered⟩ i hi
    constructor
    · intro m hpos hle hsame
      have := hsettled m hpos hsame
      omega
    · have hmono : g.spentAfter (i + 1) ≤ g.spentAfter d := Grammar.spentAfter_mono hi
      omega

/-- **How deep a run goes**: to the depth asked for, the first depth whose round adds nothing, or the greatest depth that
the limit covers, whichever comes first. -/
theorem depth_expandTo_eq (hb : g.Built) (h0 : 0 ≤ limit) (depth : Int) :
    (((Enumerator.start g limit).expandTo depth).1.depth : ℕ∞) =
      min (depth.toNat : ℕ∞) (min g.settledDepth (g.coveredDepth limit)) := by
  have hstart : Reached g limit 0 (.start g limit) := .start
  obtain ⟨last, hlast, -, hasked, hall, hstop⟩ :=
    hstart.depth_expandTimes hb h0 (depth - (Enumerator.start g limit).depth).toNat
  have hrounds : 0 + (depth - (Enumerator.start g limit).depth).toNat = depth.toNat := by simp [Enumerator.start]
  rw [hrounds] at hasked hstop
  rw [expandTo, hlast]
  apply le_antisymm
  · obtain ⟨hsettled, hcovered⟩ := (forall_goesOn_iff h0).1 fun i hi => hall i (Nat.zero_le i) hi
    exact le_min (by exact_mod_cast hasked) (le_min hsettled hcovered)
  · -- one round more would be one too many
    by_contra hlt
    have hnext : ((last + 1 : Nat) : ℕ∞) ≤ min (depth.toNat : ℕ∞) (min g.settledDepth (g.coveredDepth limit)) := by
      rw [Nat.cast_succ]
      exact Order.add_one_le_of_lt (not_le.1 hlt)
    obtain ⟨hmore, hrest⟩ := le_min_iff.1 hnext
    have hmore' : last + 1 ≤ depth.toNat := by exact_mod_cast hmore
    have hgo : GoesOn g limit last := (forall_goesOn_iff h0).2 (le_min_iff.1 hrest) last (Nat.lt_succ_self last)
    rcases hstop with hstop | hstop
    · omega
    · exact hstop hgo

/-! ## The law of the limit -/

/-- whatever can be asked of the second enumeration has the answer that the first gives -/
def SameAnswers (e e' : Enumerator) : Prop :=
  (∀ s, e'.derivations s = e.derivations s) ∧ e'.depth = e.depth ∧ e'.size = e.size ∧ e'.finished = e.finished

/-- **The law of the size limit.** After any calls, single rounds and runs mixed, an enumeration with a limit that is not
negative has the trees of as many rounds as its depth says, and a run is nothing but single rounds. The next round
succeeds if and only if the limit covers it together with all rounds before. If it fails, every answer stays as it was,
and so it does whatever is called later, where every round fails. A run from the start ends at the depth asked for, at the
first depth whose round adds nothing, or at the greatest depth that the limit covers, whichever comes first. -/
theorem size_limit_exact (hb : g.Built) (h0 : 0 ≤ limit) (script : List Call) :
    let e := (Enumerator.start g limit).calls script
    (∀ s ∈ g.names, e.derivations s = .ok (g.treesAfter e.depth s)) ∧
      (∀ depth, ∃ rounds, e.call (.expandTo depth) = e.calls (List.replicate rounds .expand)) ∧
      (e.expand.grown = true ↔ (g.spentAfter (e.depth + 1) : Int) ≤ limit) ∧
      (e.expand.grown = false → ∀ later : List Call,
        SameAnswers e (e.expand.enumerator.calls later) ∧
          (e.expand.enumerator.calls later).expand.grown = false) ∧
      ∀ depth : Int, (((Enumerator.start g limit).expandTo depth).1.depth : ℕ∞) =
        min (depth.toNat : ℕ∞) (min g.settledDepth (g.coveredDepth limit)) := by
  intro e
  have hstart : Reached g limit 0 (.start g limit) := .start
  obtain ⟨n, h⟩ := hstart.calls script
  have hgrown := h.grown_iff hb h0
  refine ⟨fun s hs => ?_, fun depth => exists_calls_eq_expandTimes _ e, ?_, fun hfails later => ?_,
    depth_expandTo_eq hb h0⟩
  · rw [derivations, h.derivations?_eq hb hs, h.depth_eq]
  · rw [h.depth_eq]
    exact hgrown
  · have hover : limit < (g.spentAfter (n + 1) : Int) := by
      by_contra hle
      rw [hgrown.2 (not_lt.1 hle)] at hfails
      cases hfails
    obtain ⟨spent, hsame, hlater⟩ := calls_of_stuck hb h0 h hover (.expand :: later)
    rw [calls_cons] at hsame hlater
    refine ⟨?_, Bool.eq_false_iff.2 fun htrue => ?_⟩
    · rw [show e.expand.enumerator.calls later = { e with spent } from hsame]
      exact ⟨fun _ => rfl, rfl, rfl, rfl⟩
    · have hcovered := (hlater.grown_iff hb h0).1 htrue
      omega

/-- a limit that the first round keeps, and that the second passes midway through its trees -/
theorem size_limit_exact_repeated :
    repeatedSample.Built ∧ (0 : Int) ≤ 20 ∧ repeatedSample.spentAfter 1 = 4 ∧ repeatedSample.spentAfter 2 = 32 ∧
      let e := (Enumerator.start repeatedSample 20).calls [.expandTo 1]
      e.depth = 1 ∧ e.expand.grown = false ∧
        (∀ later : List Call, SameAnswers e (e.expand.enumerator.calls later) ∧
          (e.expand.enumerator.calls later).expand.grown = false) ∧
        (((Enumerator.start repeatedSample 20).expandTo 5).1.depth : ℕ∞) =
          min 5 (min repeatedSample.settledDepth (repeatedSample.coveredDepth 20)) := by
  have hb : repeatedSample.Built := ⟨[("S", ["S", "S"]), ("S", ["a"]), ("S", ["a"])], by rfl⟩
  obtain ⟨-, -, -, hstays, hdepth⟩ := size_limit_exact hb (by decide : (0 : Int) ≤ 20) [.expandTo 1]
  have hfails : ((Enumerator.start repeatedSample 20).calls [.expandTo 1]).expand.grown = false := by decide
  exact ⟨hb, by decide, by decide, by decide, by decide, hfails, hstays hfails, hdepth 5⟩

end Enumerator

end GrammarLab
