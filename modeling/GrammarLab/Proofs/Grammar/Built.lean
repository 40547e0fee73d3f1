/-
Grammars that were built one production after another.

Main statements, for a grammar grown from nothing by `addProduction`:
- `Built.names_nodup`: no two of its rules have the same name, so the alternatives of a symbol are those of the one rule
  with its name (`Built.alternatives_of_mem`);
- `Built.topName_not_mem`: no rule has the name that the chart parser keeps for the start;
- `WellFormed.built`: conversely, a grammar with these two properties and an alternative in every rule is built from its
  own productions (`WellFormed.ofProductions_productions`).
-/
import GrammarLab.Grammar.Basic
import Mathlib.Data.List.Nodup

namespace GrammarLab.Grammar

/-- the grammar is one that productions added in turn lead to -/
def Built (g : Grammar) : Prop := ∃ productions, ofProductions productions = .ok g

/-- no alternative holds the name that the chart parser keeps for the start -/
def TopFree (g : Grammar) : Prop := ∀ r ∈ g.rules, ∀ rhs ∈ r.alternatives, topName ∉ rhs

instance (g : Grammar) : Decidable g.TopFree := inferInstanceAs (Decidable (∀ r ∈ g.rules, _))

/-! ## Names and alternatives -/

theorem isNonTerminal_iff (g : Grammar) (s : Symbol) : g.isNonTerminal s = true ↔ s ∈ g.names := by
  simp [isNonTerminal, names, List.any_eq_true]

theorem isTerminal_iff (g : Grammar) (s : Symbol) : g.isTerminal s = true ↔ s ∉ g.names := by
  rw [isTerminal, Bool.not_eq_true', ← isNonTerminal_iff, Bool.not_eq_true]

theorem alternatives?_eq_none_iff (g : Grammar) (s : Symbol) : g.alternatives? s = none ↔ s ∉ g.names := by
  simp [alternatives?, names, List.find?_eq_none]

theorem alternatives_of_alternatives? {g : Grammar} {s : Symbol} {l : List (List Symbol)}
    (h : g.alternatives? s = some l) : g.alternatives s = l := by
  simp [alternatives, h]

theorem alternatives?_of_mem_names {g : Grammar} {s : Symbol} (h : s ∈ g.names) :
    g.alternatives? s = some (g.alternatives s) := by
  cases hs : g.alternatives? s with
  | none => exact absurd h ((alternatives?_eq_none_iff g s).1 hs)
  | some l => rw [alternatives_of_alternatives? hs]

theorem mem_names_of_mem_alternatives {g : Grammar} {s : Symbol} {rhs : List Symbol} (h : rhs ∈ g.alternatives s) :
    s ∈ g.names := by
  by_contra hs
  rw [alternatives, (alternatives?_eq_none_iff g s).2 hs] at h
  simp at h

/-- an alternative of a symbol stands in a rule of its name -/
theorem exists_rule_of_mem_alternatives {g : Grammar} {s : Symbol} {rhs : List Symbol} (h : rhs ∈ g.alternatives s) :
    ∃ r ∈ g.rules, r.name = s ∧ rhs ∈ r.alternatives := by
  cases hr : g.rules.find? (·.name = s) with
  | none => simp [alternatives, alternatives?, hr] at h
  | some r =>
    have hmem : rhs ∈ r.alternatives := by simpa [alternatives, alternatives?, hr] using h
    exact ⟨r, List.mem_of_find?_eq_some hr, by simpa using List.find?_some hr, hmem⟩

theorem TopFree.not_mem {g : Grammar} (h : g.TopFree) {s : Symbol} {rhs : List Symbol} (hrhs : rhs ∈ g.alternatives s) :
    topName ∉ rhs := by
  obtain ⟨r, hr, -, hmem⟩ := exists_rule_of_mem_alternatives hrhs
  exact h r hr rhs hmem

/-! ## Adding productions -/

theorem names_insertAlternative (name : Symbol) (rhs : List Symbol) (rules : List Rule) :
    (insertAlternative name rhs rules).map (·.name) =
      if name ∈ rules.map (·.name) then rules.map (·.name) else rules.map (·.name) ++ [name] := by
  induction rules with
  | nil => simp [insertAlternative]
  | cons r rules ih =>
    by_cases h : r.name = name
    · simp [insertAlternative, h]
    · have hne : ¬ name = r.name := fun e => h e.symm
      simp only [insertAlternative, if_neg h, List.map_cons, ih, List.mem_cons, hne, false_or]
      split_ifs <;> rfl

/-- rules of other names stay before the one that grows -/
theorem insertAlternative_append {name : Symbol} {done : List Rule} (h : name ∉ done.map (·.name)) (rhs : List Symbol)
    (rules : List Rule) : insertAlternative name rhs (done ++ rules) = done ++ insertAlternative name rhs rules := by
  induction done with
  | nil => rfl
  | cons r done ih =>
    obtain ⟨hr, hrest⟩ := not_or.1 (mt List.mem_cons.2 h)
    rw [List.cons_append, insertAlternative, if_neg fun e => hr e.symm, ih hrest, List.cons_append]

theorem mem_productions_insertAlternative {name : Symbol} {rhs : List Symbol} {rules : List Rule}
    {p : Symbol × List Symbol} : p ∈ (Grammar.mk (insertAlternative name rhs rules)).productions ↔
      p ∈ (Grammar.mk rules).productions ∨ p = (name, rhs) := by
  induction rules with
  | nil => simp [insertAlternative, productions]
  | cons r rules ih =>
    simp only [productions] at ih ⊢
    by_cases h : r.name = name
    · subst h
      simp only [insertAlternative, if_true, List.flatMap_cons, List.map_append, List.map_singleton, List.mem_append,
        List.mem_singleton]
      exact or_right_comm
    · simp only [insertAlternative, if_neg h, List.flatMap_cons, List.mem_append, ih, or_assoc]

theorem alternatives_ne_nil_insertAlternative {name : Symbol} {rhs : List Symbol} {rules : List Rule}
    (h : ∀ r ∈ rules, r.alternatives ≠ []) : ∀ r ∈ insertAlternative name rhs rules, r.alternatives ≠ [] := by
  induction rules with
  | nil => simp [insertAlternative]
  | cons r rules ih =>
    obtain ⟨hr, hrules⟩ := List.forall_mem_cons.1 h
    by_cases hname : r.name = name
    · rw [insertAlternative, if_pos hname, List.forall_mem_cons]
      exact ⟨by simp, hrules⟩
    · rw [insertAlternative, if_neg hname, List.forall_mem_cons]
      exact ⟨hr, ih hrules⟩

/-- the grammar with further productions, added one after another -/
def addAll (g : Grammar) (added : List (Symbol × List Symbol)) : Except GrammarError Grammar :=
  added.foldlM (fun g p => g.addProduction p.1 p.2) g

theorem addAll_cons_of_ok {g h : Grammar} {name : Symbol} {rhs : List Symbol} (hadd : g.addProduction name rhs = .ok h)
    (added : List (Symbol × List Symbol)) : g.addAll ((name, rhs) :: added) = h.addAll added := by
  rw [addAll, List.foldlM_cons, hadd]
  rfl

theorem addAll_append_of_ok {g h : Grammar} {first : List (Symbol × List Symbol)} (hfirst : g.addAll first = .ok h)
    (added : List (Symbol × List Symbol)) : g.addAll (first ++ added) = h.addAll added := by
  rw [addAll] at hfirst
  rw [addAll, List.foldlM_append, hfirst]
  rfl

/-- what is kept while productions are added: names differ, none is the reserved one, and none is without alternatives -/
structure WellFormed (g : Grammar) : Prop where
  nodup : g.names.Nodup
  unreserved : topName ∉ g.names
  filled : ∀ r ∈ g.rules, r.alternatives ≠ []

theorem wellFormed_empty : WellFormed empty := ⟨by simp [empty, names], by simp [empty, names], by simp [empty]⟩

theorem WellFormed.addProduction {g h : Grammar} {name : Symbol} {rhs : List Symbol} (wf : g.WellFormed)
    (hadd : g.addProduction name rhs = .ok h) : h.WellFormed := by
  unfold Grammar.addProduction at hadd
  split_ifs at hadd with hname
  cases hadd
  have hnames := names_insertAlternative name rhs g.rules
  change (Grammar.mk (insertAlternative name rhs g.rules)).names = if name ∈ g.names then g.names else g.names ++ [name]
    at hnames
  refine ⟨?_, ?_, alternatives_ne_nil_insertAlternative wf.filled⟩
  · rw [hnames]
    split_ifs with hmem
    · exact wf.nodup
    · exact List.nodup_append.2 ⟨wf.nodup, List.nodup_singleton _, fun s hs t ht => by
        rw [List.mem_singleton.1 ht]
        exact fun e => hmem (e ▸ hs)⟩
  · rw [hnames]
    split_ifs with hmem
    · exact wf.unreserved
    · intro htop
      rcases List.mem_append.1 htop with htop | htop
      · exact wf.unreserved htop
      · exact hname (List.mem_singleton.1 htop).symm

/-- what one production keeps, and what it brings, productions in turn keep and bring -/
theorem WellFormed.addAll {added : List (Symbol × List Symbol)} {g h : Grammar} (wf : g.WellFormed)
    (hrun : g.addAll added = .ok h) : h.WellFormed ∧ ∀ p, p ∈ h.productions ↔ p ∈ g.productions ∨ p ∈ added := by
  induction added generalizing g with
  | nil =>
    cases hrun
    exact ⟨wf, by simp⟩
  | cons p added ih =>
    cases hp : g.addProduction p.1 p.2 with
    | error e =>
      rw [Grammar.addAll, List.foldlM_cons, hp] at hrun
      cases hrun
    | ok g' =>
      rw [addAll_cons_of_ok hp] at hrun
      obtain ⟨hwf, hmem⟩ := ih (wf.addProduction hp) hrun
      have hnew : ∀ q, q ∈ g'.productions ↔ q ∈ g.productions ∨ q = p := by
        unfold Grammar.addProduction at hp
        split_ifs at hp
        cases hp
        exact fun q => mem_productions_insertAlternative
      refine ⟨hwf, fun q => ?_⟩
      rw [hmem, hnew, List.mem_cons, or_assoc]

/-- the productions of a grammar that was built are those that were added -/
theorem mem_productions_of_ofProductions {added : List (Symbol × List Symbol)} {g : Grammar}
    (h : ofProductions added = .ok g) {p : Symbol × List Symbol} : p ∈ g.productions ↔ p ∈ added := by
  rw [(wellFormed_empty.addAll h).2]
  simp [productions, empty]

/-! ## Built grammars -/

theorem Built.wellFormed {g : Grammar} (h : g.Built) : g.WellFormed := by
  obtain ⟨productions, hrun⟩ := h
  exact (wellFormed_empty.addAll hrun).1

/-- a rule that stands last takes further alternatives -/
theorem addAll_alternatives {name : Symbol} {done : List Rule} (hname : name ≠ topName)
    (hfresh : name ∉ done.map (·.name)) (known more : List (List Symbol)) :
    (Grammar.mk (done ++ [⟨name, known⟩])).addAll (more.map fun rhs => (name, rhs)) =
      .ok ⟨done ++ [⟨name, known ++ more⟩]⟩ := by
  induction more generalizing known with
  | nil =>
    rw [List.append_nil]
    rfl
  | cons rhs more ih =>
    have hadd : (Grammar.mk (done ++ [⟨name, known⟩])).addProduction name rhs =
        .ok ⟨done ++ [⟨name, known ++ [rhs]⟩]⟩ := by
      rw [addProduction, if_neg hname, insertAlternative_append hfresh, insertAlternative, if_pos rfl]
    rw [List.map_cons, addAll_cons_of_ok hadd, ih, List.append_assoc, List.singleton_append]

/-- a rule of a new name is added with its productions -/
theorem addAll_rule {r : Rule} {done : List Rule} (hname : r.name ≠ topName) (hfresh : r.name ∉ done.map (·.name))
    (hfilled : r.alternatives ≠ []) :
    (Grammar.mk done).addAll (r.alternatives.map fun rhs => (r.name, rhs)) = .ok ⟨done ++ [r]⟩ := by
  obtain ⟨first, more, halternatives⟩ := List.exists_cons_of_ne_nil hfilled
  have hadd : (Grammar.mk done).addProduction r.name first = .ok ⟨done ++ [⟨r.name, [first]⟩]⟩ := by
    have hinsert := insertAlternative_append hfresh first []
    rw [List.append_nil] at hinsert
    rw [addProduction, if_neg hname, hinsert, insertAlternative]
  rw [halternatives, List.map_cons, addAll_cons_of_ok hadd, addAll_alternatives hname hfresh, List.singleton_append,
    ← halternatives]

/-- rules of new names are added one after another -/
theorem addAll_rules {done rules : List Rule} (hnodup : ((done ++ rules).map (·.name)).Nodup)
    (htop : topName ∉ rules.map (·.name)) (hfilled : ∀ r ∈ rules, r.alternatives ≠ []) :
    (Grammar.mk done).addAll (Grammar.mk rules).productions = .ok ⟨done ++ rules⟩ := by
  induction rules generalizing done with
  | nil =>
    rw [List.append_nil]
    rfl
  | cons r rules ih =>
    obtain ⟨hr, hfilled⟩ := List.forall_mem_cons.1 hfilled
    obtain ⟨hname, htop⟩ := not_or.1 (mt List.mem_cons.2 htop)
    have hfresh : r.name ∉ done.map (·.name) := by
      rw [List.map_append, List.map_cons] at hnodup
      exact fun hmem => (List.nodup_append.1 hnodup).2.2 _ hmem _ List.mem_cons_self rfl
    have hproductions : (Grammar.mk (r :: rules)).productions =
        (r.alternatives.map fun rhs => (r.name, rhs)) ++ (Grammar.mk rules).productions := List.flatMap_cons
    rw [hproductions, addAll_append_of_ok (addAll_rule (fun e => hname e.symm) hfresh hr),
      ih (by simpa using hnodup) htop hfilled, List.append_assoc, List.singleton_append]

/-- **A grammar is built from its own productions.** -/
theorem WellFormed.ofProductions_productions {g : Grammar} (wf : g.WellFormed) :
    ofProductions g.productions = .ok g := @addAll_rules [] g.rules wf.nodup wf.unreserved wf.filled

theorem WellFormed.built {g : Grammar} (wf : g.WellFormed) : g.Built := ⟨_, wf.ofProductions_productions⟩

/-- **No two rules share a name.** -/
theorem Built.names_nodup {g : Grammar} (h : g.Built) : g.names.Nodup := h.wellFormed.nodup

/-- **The reserved name has no rule.** -/
theorem Built.topName_not_mem {g : Grammar} (h : g.Built) : topName ∉ g.names := h.wellFormed.unreserved

/-- the alternatives of a symbol are those of the rule with its name -/
theorem Built.alternatives_of_mem {g : Grammar} (h : g.Built) {r : Rule} (hr : r ∈ g.rules) :
    g.alternatives r.name = r.alternatives := by
  cases hf : g.rules.find? (·.name = r.name) with
  | none => rw [List.find?_eq_none] at hf; exact absurd (by simp) (hf r hr)
  | some q =>
    have hname : q.name = r.name := by simpa using List.find?_some hf
    have hqr : q = r := List.inj_on_of_nodup_map h.names_nodup (List.mem_of_find?_eq_some hf) hr hname
    simp [alternatives, alternatives?, hf, hqr]

theorem start_eq_ok {g : Grammar} {s : Symbol} (h : g.start? = some s) : g.start = .ok s := by simp [start, h]

theorem mem_names_of_start? {g : Grammar} {s : Symbol} (h : g.start? = some s) : s ∈ g.names :=
  List.mem_of_mem_head? h

end GrammarLab.Grammar
