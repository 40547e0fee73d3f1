/-
Words with infinitely many derivation trees.

`readings g s w` are the derivation trees of `s` that spell `w`, and `Occurs g s a` says that some derivation tree of `s`
has a node of `a` in it. Main statement:
- `exists_infinite_readings_iff`: some word has infinitely many readings from `s` if and only if a nonterminal that comes
  back to itself occurs in a derivation tree of `s`.
From right to left, a tree of a nonterminal that comes back to itself can be made higher without a change to its leaves,
and this as deep inside another tree as need be. From left to right, in a tree without such nonterminals every child
either has fewer leaves than its parent or is what the parent collapses to; only finitely many trees go down like that
(`finite_calmTrees`).
-/
import GrammarLab.Proofs.Grammar.Chains
import Mathlib.Data.Set.Finite.List
import Mathlib.Data.Set.Finite.Lemmas

namespace GrammarLab

namespace ParseTree

/-- the tree `u` is a part of another tree -/
inductive Within (u : ParseTree) : ParseTree → Prop where
  | self : Within u u
  | child {s : Symbol} {cs : List ParseTree} {c : ParseTree} (mem : c ∈ cs) (below : Within u c) : Within u (.node s cs)

theorem height_lt_of_mem {s : Symbol} {cs : List ParseTree} {c : ParseTree} (h : c ∈ cs) :
    c.height < (node s cs).height := by
  have htwo := two_le_height_node s cs
  have hle := (height_node_le_iff s cs ((node s cs).height - 2)).1 (by omega) c h
  omega

end ParseTree

open ParseTree (Within)

/-- only finitely many lists of bounded length have all their elements in a finite set -/
theorem finite_lists {α : Type} {S : Set α} (hS : S.Finite) (n : Nat) :
    {l : List α | l.length ≤ n ∧ ∀ a ∈ l, a ∈ S}.Finite := by
  have := hS.to_subtype
  refine ((List.finite_length_le S n).image (List.map Subtype.val)).subset ?_
  rintro l ⟨hlen, hmem⟩
  exact ⟨l.attachWith (· ∈ S) hmem, by simpa using hlen, by simp⟩

namespace Grammar

variable {g : Grammar} {s a : Symbol} {t u c : ParseTree} {cs : List ParseTree} {w : List Symbol}

/-- the derivation trees of a symbol that spell a word -/
def readings (g : Grammar) (s : Symbol) (w : List Symbol) : Set ParseTree := {t | g.Derivation s t ∧ t.leaves = w}

/-- a derivation tree of `s` has a node of `a` in it -/
def Occurs (g : Grammar) (s a : Symbol) : Prop := ∃ t u, g.Derivation s t ∧ u.Within t ∧ g.Derivation a u

theorem Derivation.realizable (h : g.Derivation s t) : g.Realizable s := ⟨t, h⟩

theorem Derivation.mem_names (h : g.Derivation s t) : s ∈ g.names := h.realizable.mem_names

/-- a tree with valid trees on both sides makes a tree of whatever has an alternative of their symbols -/
theorem derivation_around {us vs : List ParseTree}
    (rule : us.map ParseTree.symbol ++ a :: vs.map ParseTree.symbol ∈ g.alternatives s)
    (hus : ∀ c ∈ us, g.Valid c) (ht : g.Derivation a t) (hvs : ∀ c ∈ vs, g.Valid c) :
    g.Derivation s (.node s (us ++ t :: vs)) := by
  refine derivation_node (by simpa [ht.symbol_eq] using rule) fun c hc => ?_
  rcases List.mem_append.1 hc with hc | hc
  · exact hus c hc
  · rcases List.mem_cons.1 hc with rfl | hc
    · exact ht.valid
    · exact hvs c hc

/-- a child of a valid tree can be replaced by any derivation tree of its symbol -/
theorem Valid.replace_child {before after : List ParseTree} (h : g.Valid (.node s (before ++ c :: after)))
    (ht : g.Derivation c.symbol t) : g.Derivation s (.node s (before ++ t :: after)) := by
  have rule : before.map ParseTree.symbol ++ c.symbol :: after.map ParseTree.symbol ∈ g.alternatives s := by
    simpa using h.rule_mem
  have hbefore : ∀ d ∈ before, g.Valid d := fun d hd => h.of_mem (List.mem_append_left _ hd)
  have hafter : ∀ d ∈ after, g.Valid d := fun d hd => h.of_mem (List.mem_append_right _ (List.mem_cons_of_mem _ hd))
  exact derivation_around rule hbefore ht hafter

/-! ## Parts of a tree -/

theorem Valid.within (h : g.Valid t) (hu : u.Within t) : g.Valid u := by
  induction hu with
  | self => exact h
  | child mem _ ih => exact ih (h.of_mem mem)

/-- a part that is a node has the nodes of its parts all the way up -/
theorem Valid.symbol_mem_names (h : g.Valid t) (hu : u.Within t) (hname : u.symbol ∈ g.names) :
    t.symbol ∈ g.names := by
  cases hu with
  | self => exact hname
  | child => exact h.mem_names

theorem Valid.leads (h : g.Valid t) (hu : u.Within t) (hname : u.symbol ∈ g.names) : g.Leads t.symbol u.symbol := by
  induction hu with
  | self => exact .refl
  | @child s cs c mem below ih =>
    have hc := h.of_mem mem
    exact (ih hc).head ⟨hc.symbol_mem_names below hname, _, h.rule_mem, List.mem_map_of_mem mem⟩

theorem Occurs.leads (h : g.Occurs s a) : g.Leads s a := by
  obtain ⟨t, u, ht, hu, ha⟩ := h
  have := ht.valid.leads hu (ha.symbol_eq.symm ▸ ha.mem_names)
  rwa [ht.symbol_eq, ha.symbol_eq] at this

theorem Occurs.realizable (h : g.Occurs s a) : g.Realizable a := by
  obtain ⟨t, u, -, -, ha⟩ := h
  exact ha.realizable

/-- where everything that a symbol leads to is realizable, all of it occurs in derivation trees of the symbol -/
theorem Leads.occurs (h : g.Leads s a) (hall : ∀ b, g.Leads s b → g.Realizable b) : g.Occurs s a := by
  induction h using Relation.ReflTransGen.head_induction_on with
  | refl =>
    obtain ⟨t, ht⟩ := hall a .refl
    exact ⟨t, t, ht, .self, ht⟩
  | @head s b first _ ih =>
    obtain ⟨t, u, ht, hu, ha⟩ := ih fun c hc => hall c (hc.head first)
    obtain ⟨-, rhs, hrhs, hb⟩ := first
    have hsibling : ∀ c ∈ rhs, ∃ t, t.symbol = c ∧ g.Valid t := fun c hc =>
      exists_valid fun hname => hall c (.single ⟨hname, rhs, hrhs, hc⟩)
    obtain ⟨before, after, rfl⟩ := List.append_of_mem hb
    obtain ⟨us, rfl, hus⟩ := exists_trees (P := g.Valid) fun c hc => hsibling c (List.mem_append_left _ hc)
    obtain ⟨vs, rfl, hvs⟩ := exists_trees (P := g.Valid) fun c hc =>
      hsibling c (List.mem_append_right _ (List.mem_cons_of_mem _ hc))
    exact ⟨.node s (us ++ t :: vs), u, derivation_around hrhs hus ht hvs,
      .child (List.mem_append_right _ List.mem_cons_self) hu, ha⟩

/-! ## Making a tree higher -/

/-- a tree of what a symbol collapses to stands in a higher tree of the symbol with the same leaves -/
theorem Collapses.exists_higher (h : g.Collapses s a) (ht : g.Derivation a t) :
    ∃ t', g.Derivation s t' ∧ t'.leaves = t.leaves ∧ t.height < t'.height := by
  obtain ⟨-, before, after, rule, hempty⟩ := h
  obtain ⟨us, rfl, hus⟩ := exists_trees (P := fun t => g.Valid t ∧ t.leaves = []) fun b hb =>
    (hempty b (List.mem_append_left _ hb)).exists_valid
  obtain ⟨vs, rfl, hvs⟩ := exists_trees (P := fun t => g.Valid t ∧ t.leaves = []) fun b hb =>
    (hempty b (List.mem_append_right _ hb)).exists_valid
  have hu : us.flatMap ParseTree.leaves = [] := List.flatMap_eq_nil_iff.2 fun c hc => (hus c hc).2
  have hv : vs.flatMap ParseTree.leaves = [] := List.flatMap_eq_nil_iff.2 fun c hc => (hvs c hc).2
  refine ⟨.node s (us ++ t :: vs),
    derivation_around rule (fun c hc => (hus c hc).1) ht fun c hc => (hvs c hc).1, ?_, ?_⟩
  · simp [hu, hv]
  · exact ParseTree.height_lt_of_mem (List.mem_append_right _ List.mem_cons_self)

/-- what one step makes of every tree of the lower symbol, a chain of steps makes of it, for a transitive relation of the
trees -/
theorem exists_related_of_transGen {step : Symbol → Symbol → Prop} (related : ParseTree → ParseTree → Prop)
    (htrans : ∀ t u v, related t u → related u v → related t v)
    (hstep : ∀ s a, step s a → ∀ t, g.Derivation a t → ∃ t', g.Derivation s t' ∧ related t t')
    (h : Relation.TransGen step s a) (ht : g.Derivation a t) : ∃ t', g.Derivation s t' ∧ related t t' := by
  induction h using Relation.TransGen.head_induction_on with
  | single last => exact hstep _ _ last t ht
  | head first _ ih =>
    obtain ⟨t₁, ht₁, hrel₁⟩ := ih
    obtain ⟨t₂, ht₂, hrel₂⟩ := hstep _ _ first t₁ ht₁
    exact ⟨t₂, ht₂, htrans t t₁ t₂ hrel₁ hrel₂⟩

theorem exists_higher_of_transGen (h : Relation.TransGen g.Collapses s a) (ht : g.Derivation a t) :
    ∃ t', g.Derivation s t' ∧ t'.leaves = t.leaves ∧ t.height < t'.height := by
  refine exists_related_of_transGen (fun t t' => t'.leaves = t.leaves ∧ t.height < t'.height) ?_
    (fun _ _ hstep _ ht => hstep.exists_higher ht) h ht
  rintro t u v ⟨hleaves, hlt⟩ ⟨hleaves', hlt'⟩
  exact ⟨hleaves'.trans hleaves, hlt.trans hlt'⟩

/-- a set of trees without a highest one is infinite -/
theorem infinite_of_exists_higher {T : Set ParseTree} (hne : T.Nonempty)
    (h : ∀ t ∈ T, ∃ t' ∈ T, t.height < t'.height) : T.Infinite := by
  intro hfin
  obtain ⟨t, ht, hmax⟩ := Set.exists_max_image T ParseTree.height hfin hne
  obtain ⟨t', ht', hlt⟩ := h t ht
  exact absurd (hmax t' ht') (Nat.not_le_of_lt hlt)

/-- every word that a nonterminal derives which comes back to itself has infinitely many readings -/
theorem Cyclic.infinite_readings (h : g.Cyclic s) (ht : g.Derivation s t) : (g.readings s t.leaves).Infinite := by
  refine infinite_of_exists_higher ⟨t, ht, rfl⟩ fun t₁ ⟨ht₁, hleaves⟩ => ?_
  obtain ⟨t₂, ht₂, hleaves₂, hlt⟩ := exists_higher_of_transGen h ht₁
  exact ⟨t₂, ⟨ht₂, hleaves₂.trans hleaves⟩, hlt⟩

/-- a child with infinitely many readings can be replaced by each of them -/
theorem Valid.exists_infinite_of_child (h : g.Valid (.node s cs)) (hc : c ∈ cs)
    (hinf : (g.readings c.symbol w).Infinite) : ∃ w', (g.readings s w').Infinite := by
  obtain ⟨before, after, rfl⟩ := List.append_of_mem hc
  have hinj : (fun t => ParseTree.node s (before ++ t :: after)).Injective := fun t u htu => by simpa using htu
  refine ⟨before.flatMap ParseTree.leaves ++ (w ++ after.flatMap ParseTree.leaves),
    (hinf.image hinj.injOn).mono ?_⟩
  rintro _ ⟨t, ⟨ht, rfl⟩, rfl⟩
  exact ⟨h.replace_child ht, by simp⟩

theorem Valid.exists_infinite_of_within (h : g.Valid t) (hu : u.Within t)
    (hinf : ∃ w, (g.readings u.symbol w).Infinite) : ∃ w, (g.readings t.symbol w).Infinite := by
  induction hu with
  | self => exact hinf
  | child mem _ ih =>
    obtain ⟨w, hw⟩ := ih (h.of_mem mem)
    exact h.exists_infinite_of_child mem hw

/-! ## Trees that do not go round in circles -/

/-- no part of the tree has a symbol that comes back to itself -/
def Calm (g : Grammar) (t : ParseTree) : Prop := ∀ u : ParseTree, u.Within t → ¬ g.Cyclic u.symbol

theorem Calm.of_mem (h : g.Calm (.node s cs)) (hc : c ∈ cs) : g.Calm c := fun u hu => h u (.child hc hu)

/-- the calm trees of a symbol with a given number of leaves -/
def calmTrees (g : Grammar) (s : Symbol) (n : Nat) : Set ParseTree :=
  {t | g.Valid t ∧ g.Calm t ∧ t.symbol = s ∧ t.leaves.length = n}

/-- a child has fewer leaves than its parent, unless it is what the parent collapses to -/
theorem Valid.leaves_of_child (h : g.Valid (.node s cs)) (hc : c ∈ cs) :
    c.leaves.length < (ParseTree.node s cs).leaves.length ∨
      c.leaves.length = (ParseTree.node s cs).leaves.length ∧ (c.symbol ∈ g.names → g.Collapses s c.symbol) := by
  obtain ⟨before, after, rfl⟩ := List.append_of_mem hc
  have hlen : (ParseTree.node s (before ++ c :: after)).leaves.length =
      (before.flatMap ParseTree.leaves).length + c.leaves.length + (after.flatMap ParseTree.leaves).length := by
    simp only [ParseTree.leaves_node, List.flatMap_append, List.flatMap_cons, List.length_append]
    omega
  rw [hlen]
  rcases Nat.eq_zero_or_pos ((before.flatMap ParseTree.leaves).length + (after.flatMap ParseTree.leaves).length)
    with hzero | hpos
  · refine Or.inr ⟨by omega, fun hname => ⟨hname, before.map ParseTree.symbol, after.map ParseTree.symbol,
      by simpa using h.rule_mem, fun b hb => ?_⟩⟩
    have hbefore := List.flatMap_eq_nil_iff.1 (List.eq_nil_of_length_eq_zero (Nat.eq_zero_of_add_eq_zero_right hzero))
    have hafter := List.flatMap_eq_nil_iff.1 (List.eq_nil_of_length_eq_zero (Nat.eq_zero_of_add_eq_zero_left hzero))
    rw [← List.map_append] at hb
    obtain ⟨d, hd, rfl⟩ := List.mem_map.1 hb
    rcases List.mem_append.1 hd with hd | hd
    · exact (h.of_mem (List.mem_append_left _ hd)).vanishes (hbefore d hd)
    · exact (h.of_mem (List.mem_append_right _ (List.mem_cons_of_mem _ hd))).vanishes (hafter d hd)
  · exact Or.inl (by omega)

/-- nonterminals that do not come back to themselves cannot collapse for ever -/
theorem wellFounded_collapses (g : Grammar) :
    WellFounded fun a b : {a // a ∈ g.names ∧ ¬ g.Cyclic a} => g.Collapses b a := by
  have hfinite : Finite {a // a ∈ g.names ∧ ¬ g.Cyclic a} :=
    ((List.finite_toSet g.names).subset fun a (ha : a ∈ g.names ∧ ¬ g.Cyclic a) => ha.1).to_subtype
  let Below (a b : {a // a ∈ g.names ∧ ¬ g.Cyclic a}) : Prop := Relation.TransGen g.Collapses b a
  have : IsTrans _ Below := ⟨fun _ _ _ hab hbc => hbc.trans hab⟩
  have : Std.Irrefl Below := ⟨fun a ha => a.2.2 ha⟩
  exact Subrelation.wf (fun h => Relation.TransGen.single h) (Finite.wellFounded_of_trans_of_irrefl Below)

/-- nodes of one symbol are finitely many if their children are -/
theorem finite_of_finite_children {T : Set ParseTree} (hT : ∀ t ∈ T, ∃ cs, t = .node s cs ∧ g.Valid t)
    (hchildren : {c | ∃ t ∈ T, c ∈ t.children}.Finite) : T.Finite := by
  refine ((finite_lists hchildren (g.alternatives s).flatten.length).image (ParseTree.node s)).subset fun t ht => ?_
  obtain ⟨cs, rfl, hvalid⟩ := hT t ht
  refine ⟨cs, ⟨?_, fun c hc => ⟨_, ht, hc⟩⟩, rfl⟩
  simpa using (List.sublist_flatten_of_mem hvalid.rule_mem).length_le

/-- what has no rule or comes back to itself has at most a leaf for a calm tree -/
theorem finite_calmTrees_of_not (n : Nat) (h : ¬ (s ∈ g.names ∧ ¬ g.Cyclic s)) : (g.calmTrees s n).Finite := by
  refine (Set.finite_singleton (ParseTree.leaf s)).subset ?_
  rintro t ⟨hvalid, hcalm, rfl, -⟩
  cases t with
  | leaf a => rfl
  | node a cs => exact absurd ⟨hvalid.mem_names, hcalm _ .self⟩ h

/-- calm trees are finitely many if those with fewer leaves are and those of what their symbol collapses to -/
theorem finite_calmTrees_step {n : Nat} (hs : s ∈ g.names) (hfewer : ∀ m < n, ∀ a, (g.calmTrees a m).Finite)
    (hsame : ∀ a, a ∈ g.names → ¬ g.Cyclic a → g.Collapses s a → (g.calmTrees a n).Finite) :
    (g.calmTrees s n).Finite := by
  have hnode : ∀ t ∈ g.calmTrees s n, ∃ cs, t = .node s cs ∧ g.Valid t := by
    rintro t ⟨hvalid, -, rfl, -⟩
    cases t with
    | leaf a => exact absurd hs (valid_leaf_iff.1 hvalid)
    | node a cs => exact ⟨cs, rfl, hvalid⟩
  let Known : Set (Symbol × Nat) :=
    {p | p.1 ∈ (g.alternatives s).flatten ∧ p.2 ≤ n ∧ (g.calmTrees p.1 p.2).Finite}
  have hKnown : Known.Finite :=
    ((List.finite_toSet (g.alternatives s).flatten).prod (Set.finite_le_nat n)).subset fun p hp => ⟨hp.1, hp.2.1⟩
  refine finite_of_finite_children hnode ((hKnown.biUnion fun p hp => hp.2.2).subset ?_)
  rintro c ⟨t, ht, hc⟩
  obtain ⟨cs, rfl, -⟩ := hnode t ht
  obtain ⟨hvalid, hcalm, -, rfl⟩ := ht
  have hcalmc : g.Calm c := hcalm.of_mem hc
  have hsymbol : c.symbol ∈ (g.alternatives s).flatten :=
    List.mem_flatten.2 ⟨_, hvalid.rule_mem, List.mem_map_of_mem hc⟩
  refine Set.mem_biUnion (x := (c.symbol, c.leaves.length)) ⟨hsymbol, ?_⟩ ⟨hvalid.of_mem hc, hcalmc, rfl, rfl⟩
  rcases hvalid.leaves_of_child hc with hlt | ⟨heq, hcollapses⟩
  · exact ⟨hlt.le, hfewer _ hlt _⟩
  · refine ⟨heq.le, ?_⟩
    by_cases hname : c.symbol ∈ g.names
    · rw [heq]
      exact hsame _ hname (hcalmc c .self) (hcollapses hname)
    · exact finite_calmTrees_of_not _ fun h => hname h.1

/-- calm trees of a symbol with a given number of leaves are finitely many: the induction is on that number and, for one
number, on what the symbol can collapse to -/
theorem finite_calmTrees (g : Grammar) (n : Nat) (s : Symbol) : (g.calmTrees s n).Finite := by
  induction n using Nat.strong_induction_on generalizing s with
  | _ n ihn =>
    have hcalm : ∀ x : {a // a ∈ g.names ∧ ¬ g.Cyclic a}, (g.calmTrees x n).Finite := by
      intro x
      induction x using (wellFounded_collapses g).induction with
      | _ x ih => exact finite_calmTrees_step x.2.1 ihn fun a ha hcyclic h => ih ⟨a, ha, hcyclic⟩ h
    by_cases hs : s ∈ g.names ∧ ¬ g.Cyclic s
    · exact hcalm ⟨s, hs⟩
    · exact finite_calmTrees_of_not n hs

/-- what has only calm trees has finitely many readings of every word -/
theorem finite_readings (h : ∀ t, g.Derivation s t → g.Calm t) (w : List Symbol) : (g.readings s w).Finite :=
  (finite_calmTrees g w.length s).subset fun t ⟨ht, hleaves⟩ => ⟨ht.valid, h t ht, ht.symbol_eq, by rw [hleaves]⟩

/-- a valid tree is calm if it is nowhere a node of a nonterminal that comes back to itself -/
theorem Derivation.calm (ht : g.Derivation s t) (h : ∀ a, g.Occurs s a → ¬ g.Cyclic a) : g.Calm t := by
  intro u hu hcyclic
  have hderives : g.Derivation u.symbol u := (ht.valid.within hu).derivation hcyclic.mem_names
  exact h u.symbol ⟨t, u, ht, hu, hderives⟩ hcyclic

/-- **When a word has infinitely many readings**: a nonterminal that comes back to itself occurs in a derivation tree. -/
theorem exists_infinite_readings_iff (g : Grammar) (s : Symbol) :
    (∃ w, (g.readings s w).Infinite) ↔ ∃ a, g.Cyclic a ∧ g.Occurs s a := by
  constructor
  · rintro ⟨w, hinf⟩
    by_contra hno
    exact hinf (finite_readings (fun t ht => ht.calm fun a ha hcyclic => hno ⟨a, hcyclic, ha⟩) w)
  · rintro ⟨a, hcyclic, t, u, ht, hu, ha⟩
    rw [← ht.symbol_eq]
    refine ht.valid.exists_infinite_of_within hu ⟨u.leaves, ?_⟩
    rw [ha.symbol_eq]
    exact hcyclic.infinite_readings ha

end Grammar

end GrammarLab
