/-
How high derivation trees can be.

`Shallow g n` says that no derivation tree of the grammar, of whatever nonterminal, has more than `n + 1` levels.
- `shallow_of_step`: it is enough to look at trees that have one level more;
- `shallow_of_finite`: where every nonterminal has finitely many derivation trees, no tree is higher than one level more
  than there are nonterminals. A nonterminal that has itself below it could be put there once more (`infinite_of_above`),
  so no path down a tree meets a nonterminal twice.
-/
import GrammarLab.Proofs.Tree.Cycles

namespace GrammarLab.Grammar

variable {g : Grammar} {n m : Nat} {s a b : Symbol} {t : ParseTree}

/-- no derivation tree has more than `n + 1` levels -/
def Shallow (g : Grammar) (n : Nat) : Prop := ∀ s t, g.Derivation s t → t.height ≤ n + 1

theorem Shallow.mono (h : g.Shallow m) (hmn : m ≤ n) : g.Shallow n := by
  intro s t ht
  have := h s t ht
  omega

/-- if trees with one level more do not use it, no tree does -/
theorem shallow_of_step (h : ∀ s t, g.Derivation s t → t.height ≤ n + 2 → t.height ≤ n + 1) : g.Shallow n := by
  suffices ∀ t, g.Valid t → t.height ≤ n + 1 from fun s t ht => this t ht.valid
  intro t ht
  induction ht with
  | leaf => simp [ParseTree.height]
  | @node s cs rule below ih =>
    exact h s _ (derivation_node rule below) ((ParseTree.height_node_le_iff s cs n).2 ih)

/-! ## Putting a nonterminal below itself -/

/-- in some valid tree a node of `s` has a child that is a node of `a` -/
def Above (g : Grammar) (s a : Symbol) : Prop := ∃ cs c, g.Valid (.node s cs) ∧ c ∈ cs ∧ g.Derivation a c

theorem Above.realizable (h : g.Above s a) : g.Realizable s := by
  obtain ⟨cs, -, hvalid, -, -⟩ := h
  exact ⟨.node s cs, derivation_node_iff.2 ⟨rfl, hvalid⟩⟩

/-- every tree of the lower nonterminal stands in a higher tree of the upper one -/
theorem Above.exists_higher (h : g.Above s a) (ht : g.Derivation a t) :
    ∃ t', g.Derivation s t' ∧ t.height < t'.height := by
  obtain ⟨cs, c, hvalid, hc, hd⟩ := h
  obtain rfl : c.symbol = a := hd.symbol_eq
  obtain ⟨before, after, rfl⟩ := List.append_of_mem hc
  refine ⟨.node s (before ++ t :: after), hvalid.replace_child ht, ?_⟩
  exact ParseTree.height_lt_of_mem (List.mem_append_right _ List.mem_cons_self)

theorem exists_higher_of_above (h : Relation.TransGen g.Above s a) (ht : g.Derivation a t) :
    ∃ t', g.Derivation s t' ∧ t.height < t'.height :=
  exists_related_of_transGen (fun t t' => t.height < t'.height) (fun _ _ _ hlt hlt' => hlt.trans hlt')
    (fun _ _ hstep _ ht => hstep.exists_higher ht) h ht

/-- **A nonterminal with itself below it has infinitely many derivation trees.** -/
theorem infinite_of_above (h : Relation.TransGen g.Above s s) : {t | g.Derivation s t}.Infinite := by
  have hsome : g.Realizable s := by
    cases h using Relation.TransGen.head_induction_on with
    | single last => exact last.realizable
    | head first => exact first.realizable
  exact infinite_of_exists_higher hsome fun t ht => exists_higher_of_above h ht

/-! ## Paths without repetition -/

/-- a tree and the nonterminals on the path down to it: none of them occurs twice, so there is only so much room -/
theorem Valid.height_add_length_le (hno : ∀ s, ¬ Relation.TransGen g.Above s s) (ht : g.Valid t) :
    ∀ path : List Symbol, path.Nodup → path ⊆ g.names →
      (t.symbol ∈ g.names → ∀ a ∈ path, Relation.TransGen g.Above a t.symbol) →
      t.height + path.length ≤ g.names.length + 1 := by
  induction ht with
  | leaf =>
    intro path hnodup hnames _
    have hlength := (hnodup.subperm hnames).length_le
    rw [ParseTree.height]
    omega
  | @node s cs rule below ih =>
    intro path hnodup hnames habove
    have hs : s ∈ g.names := mem_names_of_mem_alternatives rule
    have hfresh : s ∉ path := fun hmem => hno s (habove hs s hmem)
    have hnodup' : (s :: path).Nodup := List.nodup_cons.2 ⟨hfresh, hnodup⟩
    have hnames' : s :: path ⊆ g.names := List.cons_subset.2 ⟨hs, hnames⟩
    have hroom : path.length + 1 ≤ g.names.length := (hnodup'.subperm hnames').length_le
    have hchild : ∀ c ∈ cs, c.height ≤ (g.names.length - (path.length + 1)) + 1 := by
      intro c hc
      have hpath : c.symbol ∈ g.names → ∀ a ∈ s :: path, Relation.TransGen g.Above a c.symbol := by
        intro hname
        have hedge : g.Above s c.symbol := ⟨cs, c, .node rule below, hc, (below c hc).derivation hname⟩
        exact List.forall_mem_cons.2 ⟨.single hedge, fun a ha => (habove hs a ha).tail hedge⟩
      have hle := ih c hc (s :: path) hnodup' hnames' hpath
      rw [List.length_cons] at hle
      omega
    have hnode := (ParseTree.height_node_le_iff s cs _).2 hchild
    omega

/-- **Finitely many trees are low trees.** Where no nonterminal has infinitely many derivation trees, a tree has at most
one level more than there are nonterminals. -/
theorem shallow_of_finite (hfinite : ∀ s ∈ g.names, {t | g.Derivation s t}.Finite) : g.Shallow g.names.length := by
  intro s t ht
  have hno : ∀ a, ¬ Relation.TransGen g.Above a a := by
    intro a hcycle
    obtain ⟨u, hu⟩ := (infinite_of_above hcycle).nonempty
    exact infinite_of_above hcycle (hfinite a hu.mem_names)
  have hle := ht.valid.height_add_length_le hno [] List.nodup_nil (List.nil_subset _) fun _ a ha =>
    absurd ha List.not_mem_nil
  simpa using hle

end GrammarLab.Grammar
