/-
Rewriting of sentential forms.

A form is a list of symbols. One step replaces a nonterminal, wherever it stands, by one of its alternatives
(`Rewrites`); `Becomes` is any number of steps. Main statement:
- `cyclic_exact`: the cyclic nonterminals of an analysis are those that rewrite, alone, to themselves alone in one or
  more steps.
The analysis looks at single alternatives and at which symbols vanish. From there to the forms, whatever stands beside
the symbol that matters is rewritten away along its tree without leaves (`Valid.becomes_leaves`). The other way round,
that a form is one symbol with vanishing company (`Alone`) is carried from the end of a rewriting back to its start:
each step either leaves that symbol as it is or is a collapse (`Rewrites.alone`).
-/
import GrammarLab.Proofs.Grammar.Chains

namespace GrammarLab.Grammar

variable {g : Grammar} {s a b : Symbol} {u u' v v' rhs : List Symbol}

/-- one symbol of a form is replaced by an alternative -/
inductive Rewrites (g : Grammar) : List Symbol → List Symbol → Prop where
  | replace {s : Symbol} {rhs : List Symbol} (before after : List Symbol) (rule : rhs ∈ g.alternatives s) :
      Rewrites g (before ++ s :: after) (before ++ (rhs ++ after))

/-- any number of replacements, one after another -/
def Becomes (g : Grammar) : List Symbol → List Symbol → Prop := Relation.ReflTransGen g.Rewrites

theorem rewrites_singleton_iff : g.Rewrites [s] u ↔ u ∈ g.alternatives s := by
  constructor
  · intro h
    generalize hform : [s] = form at h
    obtain ⟨before, after, rule⟩ := h
    cases before with
    | nil =>
      obtain ⟨rfl, rfl⟩ := List.cons.inj hform
      simpa using rule
    | cons c before => simp at hform
  · intro rule
    simpa using Rewrites.replace [] [] rule

/-! ## Forms side by side -/

theorem Rewrites.append_right (h : g.Rewrites u u') (v : List Symbol) : g.Rewrites (u ++ v) (u' ++ v) := by
  obtain ⟨before, after, rule⟩ := h
  simpa using Rewrites.replace before (after ++ v) rule

theorem Rewrites.append_left (h : g.Rewrites v v') (u : List Symbol) : g.Rewrites (u ++ v) (u ++ v') := by
  obtain ⟨before, after, rule⟩ := h
  simpa using Rewrites.replace (u ++ before) after rule

theorem Becomes.append (hu : g.Becomes u u') (hv : g.Becomes v v') : g.Becomes (u ++ v) (u' ++ v') := by
  have hleft : g.Becomes (u ++ v) (u' ++ v) :=
    Relation.ReflTransGen.lift (· ++ v) (fun _ _ step => Rewrites.append_right step v) _ _ hu
  have hright : g.Becomes (u' ++ v) (u' ++ v') :=
    Relation.ReflTransGen.lift (u' ++ ·) (fun _ _ step => Rewrites.append_left step u') _ _ hv
  exact hleft.trans hright

/-- the symbols of some trees become the leaves of all of them if each of them becomes those of its own -/
theorem becomes_flatMap {ts : List ParseTree} (h : ∀ t ∈ ts, g.Becomes [t.symbol] t.leaves) :
    g.Becomes (ts.map ParseTree.symbol) (ts.flatMap ParseTree.leaves) := by
  induction ts with
  | nil => exact .refl
  | cons t ts ih =>
    obtain ⟨ht, hts⟩ := List.forall_mem_cons.1 h
    exact ht.append (ih hts)

/-- **The symbol of a valid tree becomes its leaves.** -/
theorem Valid.becomes_leaves {t : ParseTree} (h : g.Valid t) : g.Becomes [t.symbol] t.leaves := by
  induction h with
  | leaf => exact .refl
  | @node s cs rule _ ih =>
    rw [ParseTree.leaves_node]
    exact (becomes_flatMap ih).head (rewrites_singleton_iff.2 rule)

theorem Vanishes.becomes_nil (h : g.Vanishes s) : g.Becomes [s] [] := by
  obtain ⟨t, rfl, hvalid, hleaves⟩ := h.exists_valid
  exact hleaves ▸ hvalid.becomes_leaves

theorem becomes_nil (h : ∀ b ∈ u, g.Vanishes b) : g.Becomes u [] := by
  induction u with
  | nil => exact .refl
  | cons b u ih =>
    obtain ⟨hb, hu⟩ := List.forall_mem_cons.1 h
    exact hb.becomes_nil.append (ih hu)

/-- a collapse is one replacement, after which the company is rewritten away -/
theorem Collapses.rewrites (h : g.Collapses s a) : Relation.TransGen g.Rewrites [s] [a] := by
  obtain ⟨-, before, after, rule, hempty⟩ := h
  have hbefore : g.Becomes before [] := becomes_nil fun b hb => hempty b (List.mem_append_left _ hb)
  have hafter : g.Becomes after [] := becomes_nil fun b hb => hempty b (List.mem_append_right _ hb)
  have hrest : g.Becomes (before ++ ([a] ++ after)) [a] := hbefore.append (.append .refl hafter)
  exact .head' (rewrites_singleton_iff.2 rule) hrest

/-! ## One symbol and its company -/

/-- the form is the symbol `b` with nothing but vanishing symbols beside it -/
def Alone (g : Grammar) (u : List Symbol) (b : Symbol) : Prop :=
  ∃ before after, u = before ++ b :: after ∧ ∀ c ∈ before ++ after, g.Vanishes c

theorem alone_cons_iff :
    g.Alone (a :: u) b ↔ a = b ∧ (∀ c ∈ u, g.Vanishes c) ∨ g.Vanishes a ∧ g.Alone u b := by
  constructor
  · rintro ⟨before, after, heq, hall⟩
    cases before with
    | nil =>
      obtain ⟨rfl, rfl⟩ := List.cons.inj heq
      exact .inl ⟨rfl, hall⟩
    | cons d before =>
      obtain ⟨rfl, rfl⟩ := List.cons.inj heq
      obtain ⟨ha, hall⟩ := List.forall_mem_cons.1 hall
      exact .inr ⟨ha, before, after, rfl, hall⟩
  · rintro (⟨rfl, hall⟩ | ⟨ha, before, after, rfl, hall⟩)
    · exact ⟨[], u, rfl, hall⟩
    · exact ⟨a :: before, after, rfl, List.forall_mem_cons.2 ⟨ha, hall⟩⟩

theorem not_alone_nil : ¬ g.Alone [] b := by
  rintro ⟨before, after, heq, -⟩
  simp at heq

theorem alone_singleton : g.Alone [s] s := ⟨[], [], rfl, by simp⟩

/-- of two forms side by side, one holds the symbol, and the other vanishes -/
theorem alone_append_iff :
    g.Alone (u ++ v) b ↔
      g.Alone u b ∧ (∀ c ∈ v, g.Vanishes c) ∨ (∀ c ∈ u, g.Vanishes c) ∧ g.Alone v b := by
  induction u with
  | nil => simp [not_alone_nil]
  | cons a u ih =>
    rw [List.cons_append, alone_cons_iff, alone_cons_iff, ih, List.forall_mem_append, List.forall_mem_cons]
    tauto

theorem collapses_iff : g.Collapses s a ↔ a ∈ g.names ∧ ∃ rhs ∈ g.alternatives s, g.Alone rhs a := by
  constructor
  · rintro ⟨ha, before, after, rule, hall⟩
    exact ⟨ha, _, rule, before, after, rfl, hall⟩
  · rintro ⟨ha, rhs, rule, before, after, rfl, hall⟩
    exact ⟨ha, before, after, rule, hall⟩

/-- **A step seen backwards.** What is alone after a replacement was alone before it, or is what the symbol that was
alone collapses to. -/
theorem Rewrites.alone (h : g.Rewrites u u') (hb : b ∈ g.names) (hu' : g.Alone u' b) :
    ∃ a ∈ g.names, g.Alone u a ∧ Relation.ReflTransGen g.Collapses a b := by
  obtain @⟨s, rhs, before, after, rule⟩ := h
  rw [← List.singleton_append (l := after)]
  simp only [alone_append_iff] at hu' ⊢
  rcases hu' with ⟨hbefore, hrest⟩ | ⟨hbefore, ⟨hrhs, hafter⟩ | ⟨hrhs, hafter⟩⟩
  · -- the symbol stands before the one that is replaced, which vanishes
    have hs : g.Vanishes s := vanishes_of_alternative rule fun c hc => hrest c (List.mem_append_left _ hc)
    refine ⟨b, hb, .inl ⟨hbefore, fun c hc => ?_⟩, .refl⟩
    rcases List.mem_append.1 hc with hc | hc
    · exact List.mem_singleton.1 hc ▸ hs
    · exact hrest c (List.mem_append_right _ hc)
  · -- it stands in the alternative
    have hcollapses : g.Collapses s b := collapses_iff.2 ⟨hb, rhs, rule, hrhs⟩
    exact ⟨s, mem_names_of_mem_alternatives rule, .inr ⟨hbefore, .inl ⟨alone_singleton, hafter⟩⟩, .single hcollapses⟩
  · -- it stands behind the one that is replaced, which vanishes
    have hs : g.Vanishes s := vanishes_of_alternative rule hrhs
    exact ⟨b, hb, .inr ⟨hbefore, .inr ⟨by simpa using hs, hafter⟩⟩, .refl⟩

/-- the symbol that a form becomes stands alone in it, up to collapses -/
theorem Becomes.alone (h : g.Becomes u [b]) (hb : b ∈ g.names) :
    ∃ a ∈ g.names, g.Alone u a ∧ Relation.ReflTransGen g.Collapses a b := by
  induction h using Relation.ReflTransGen.head_induction_on with
  | refl => exact ⟨b, hb, alone_singleton, .refl⟩
  | head first _ ih =>
    obtain ⟨c, hc, halone, hlast⟩ := ih
    obtain ⟨a, ha, halone, hfirst⟩ := first.alone hc halone
    exact ⟨a, ha, halone, hfirst.trans hlast⟩

/-- **To come back to itself alone is to rewrite to itself alone.** -/
theorem cyclic_iff_rewrites : g.Cyclic s ↔ Relation.TransGen g.Rewrites [s] [s] := by
  constructor
  · intro h
    exact Relation.TransGen.trans_induction_on (motive := fun {a b} _ => Relation.TransGen g.Rewrites [a] [b]) h
      (fun hcollapses => hcollapses.rewrites) fun _ _ hfirst hlast => hfirst.trans hlast
  · intro h
    obtain ⟨rhs, hfirst, hrest⟩ := Relation.TransGen.head'_iff.1 h
    have rule : rhs ∈ g.alternatives s := rewrites_singleton_iff.1 hfirst
    obtain ⟨a, ha, halone, hlast⟩ := Becomes.alone hrest (mem_names_of_mem_alternatives rule)
    exact .head' (collapses_iff.2 ⟨ha, rhs, rule, halone⟩) hlast

/-- **The cyclic nonterminals are exact.** The analysis calls those nonterminals cyclic that rewrite, as a form of one
symbol, to themselves in one or more steps. -/
theorem cyclic_exact (hb : g.Built) {a : Analysis} (ha : g.analyse = .ok a) (s : Symbol) :
    s ∈ a.cyclic ↔ Relation.TransGen g.Rewrites [s] [s] := by
  obtain ⟨u, n, -, hn, rfl⟩ := analyse_eq_ok_iff.1 ha
  rw [← cyclic_iff_rewrites]
  exact mem_cyclic_iff hb fun b => mem_nullable_iff hb hn

/-- a grammar in which `S` comes back to itself by way of `T`, each time beside a symbol that vanishes -/
def detourSample : Grammar := ⟨[⟨"S", [["E", "T"], ["a"]]⟩, ⟨"T", [["S", "E"]]⟩, ⟨"E", [[]]⟩]⟩

/-- both nonterminals of the cycle are found, and `E` is not -/
theorem cyclic_exact_detour :
    detourSample.Built ∧ ∃ a, detourSample.analyse = .ok a ∧
      (∀ s, s ∈ a.cyclic ↔ Relation.TransGen detourSample.Rewrites [s] [s]) ∧ "S" ∈ a.cyclic ∧ "T" ∈ a.cyclic := by
  have hb : detourSample.Built := ⟨[("S", ["E", "T"]), ("S", ["a"]), ("T", ["S", "E"]), ("E", [])], by rfl⟩
  obtain ⟨a, ha⟩ := exists_analysis hb (by decide)
  have hexact : ∀ s, s ∈ a.cyclic ↔ Relation.TransGen detourSample.Rewrites [s] [s] := cyclic_exact hb ha
  have hempty : detourSample.Rewrites ["E"] [] := rewrites_singleton_iff.2 (by decide)
  have hthere : Relation.TransGen detourSample.Rewrites ["S"] ["T"] :=
    .head (rewrites_singleton_iff.2 (by decide)) (.single (hempty.append_right ["T"]))
  have hback : Relation.TransGen detourSample.Rewrites ["T"] ["S"] :=
    .head (rewrites_singleton_iff.2 (by decide)) (.single (hempty.append_left ["S"]))
  exact ⟨hb, a, ha, hexact, (hexact "S").2 (hthere.trans hback), (hexact "T").2 (hback.trans hthere)⟩

end GrammarLab.Grammar
