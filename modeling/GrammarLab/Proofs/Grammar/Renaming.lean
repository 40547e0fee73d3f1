/-
Other names for the symbols of a grammar and of its trees.

`Grammar.rename r` and `ParseTree.rename r` put `r s` for every symbol `s`, with the order of rules, alternatives and
children kept. Main statements, for an `r` that gives no two symbols the same name:
- `alternatives?_rename`, `isNonTerminal_rename`: the renamed grammar has the renamed alternatives;
- `Built.rename`: it can be built, if no nonterminal gets the reserved name.
-/
import GrammarLab.Proofs.Tree.Derivation

namespace GrammarLab

variable {r : Symbol → Symbol}

/-! ## Trees -/

namespace ParseTree

mutual

/-- the tree with other names for its symbols -/
def rename (r : Symbol → Symbol) : ParseTree → ParseTree
  | leaf s => leaf (r s)
  | node s cs => node (r s) (renameAll r cs)

/-- the trees with other names for their symbols -/
def renameAll (r : Symbol → Symbol) : List ParseTree → List ParseTree
  | [] => []
  | c :: cs => c.rename r :: renameAll r cs

end

theorem renameAll_eq_map (r : Symbol → Symbol) (ts : List ParseTree) : renameAll r ts = ts.map (rename r) := by
  induction ts with
  | nil => rfl
  | cons t ts ih => rw [renameAll, ih, List.map_cons]

@[simp] theorem rename_node (r : Symbol → Symbol) (s : Symbol) (cs : List ParseTree) :
    (node s cs).rename r = node (r s) (cs.map (rename r)) := by
  rw [rename, renameAll_eq_map]

mutual

theorem rename_rename_of_leftInverse {f : Symbol → Symbol} (h : f.LeftInverse r) :
    ∀ t : ParseTree, (t.rename r).rename f = t
  | leaf s => congrArg leaf (h s)
  | node s cs => by rw [rename, rename, h s, renameAll_renameAll_of_leftInverse h cs]

theorem renameAll_renameAll_of_leftInverse {f : Symbol → Symbol} (h : f.LeftInverse r) :
    ∀ ts : List ParseTree, renameAll f (renameAll r ts) = ts
  | [] => rfl
  | t :: ts => by
    rw [renameAll, renameAll, rename_rename_of_leftInverse h t, renameAll_renameAll_of_leftInverse h ts]

end

theorem rename_injective (hr : r.Injective) : (rename r).Injective :=
  Function.LeftInverse.injective (rename_rename_of_leftInverse (Function.leftInverse_invFun hr))

@[simp] theorem nonTerminal?_rename (r : Symbol → Symbol) (t : ParseTree) :
    (t.rename r).nonTerminal? = t.nonTerminal?.map r := by
  cases t with
  | leaf s => rfl
  | node s cs => simp [nonTerminal?]

end ParseTree

/-! ## Grammars -/

namespace Grammar

/-- the grammar with other names for its symbols -/
def rename (r : Symbol → Symbol) (g : Grammar) : Grammar :=
  ⟨g.rules.map fun rule => ⟨r rule.name, rule.alternatives.map (List.map r)⟩⟩

variable {g : Grammar} {s : Symbol}

theorem names_rename (r : Symbol → Symbol) (g : Grammar) : (g.rename r).names = g.names.map r := by
  simp [names, rename, List.map_map, Function.comp_def]

theorem start?_rename (r : Symbol → Symbol) (g : Grammar) : (g.rename r).start? = g.start?.map r := by
  rw [start?, names_rename, List.head?_map, start?]

theorem isNonTerminal_rename (hr : r.Injective) (g : Grammar) (s : Symbol) :
    (g.rename r).isNonTerminal (r s) = g.isNonTerminal s := by
  rw [Bool.eq_iff_iff, isNonTerminal_iff, isNonTerminal_iff, names_rename, List.mem_map_of_injective hr]

theorem isTerminal_rename (hr : r.Injective) (g : Grammar) (s : Symbol) :
    (g.rename r).isTerminal (r s) = g.isTerminal s := by
  rw [isTerminal, isTerminal, isNonTerminal_rename hr]

theorem alternatives?_rename (hr : r.Injective) (g : Grammar) (s : Symbol) :
    (g.rename r).alternatives? (r s) = (g.alternatives? s).map (List.map (List.map r)) := by
  simp only [alternatives?, rename, List.find?_map, Function.comp_def, hr.eq_iff, Option.map_map]

/-- two renamings that agree on the names and alternatives of a grammar rename it alike -/
theorem rename_congr {r' : Symbol → Symbol} (hnames : ∀ s ∈ g.names, r s = r' s)
    (hrules : ∀ rule ∈ g.rules, ∀ rhs ∈ rule.alternatives, ∀ s ∈ rhs, r s = r' s) : g.rename r = g.rename r' := by
  refine congrArg Grammar.mk (List.map_congr_left fun rule hrule => ?_)
  rw [hnames rule.name (List.mem_map_of_mem hrule)]
  congr 1
  exact List.map_congr_left fun rhs hrhs => List.map_congr_left (hrules rule hrule rhs hrhs)

/-- two renamings that agree on a grammar and on its terminals agree on its trees -/
theorem Derivation.rename_congr {r' : Symbol → Symbol} {t : ParseTree} (ht : g.Derivation s t)
    (hnames : ∀ s ∈ g.names, r s = r' s)
    (hrules : ∀ rule ∈ g.rules, ∀ rhs ∈ rule.alternatives, ∀ s ∈ rhs, r s = r' s) : t.rename r = t.rename r' := by
  suffices ∀ t, g.Valid t → r t.symbol = r' t.symbol → t.rename r = t.rename r' by
    cases t with
    | leaf a => exact absurd ht not_derivation_leaf
    | node a cs => exact this _ ht.valid (hnames a ht.valid.mem_names)
  intro t hvalid
  induction hvalid with
  | leaf => exact fun hs => congrArg ParseTree.leaf hs
  | @node a cs rule below ih =>
    intro ha
    have hchildren : cs.map (ParseTree.rename r) = cs.map (ParseTree.rename r') := by
      refine List.map_congr_left fun c hc => ih c hc ?_
      obtain ⟨q, hq, -, hmem⟩ := exists_rule_of_mem_alternatives rule
      exact hrules q hq _ hmem _ (List.mem_map_of_mem hc)
    rw [ParseTree.rename_node, ParseTree.rename_node, hchildren]
    exact congrArg (ParseTree.node · _) ha

/-- **The renamed grammar is one that can be built**, if no nonterminal gets the reserved name. -/
theorem Built.rename (hb : g.Built) (hr : r.Injective) (hnames : ∀ s ∈ g.names, r s ≠ topName) :
    (g.rename r).Built := by
  refine WellFormed.built ⟨?_, ?_, ?_⟩
  · rw [names_rename]
    exact hb.names_nodup.map hr
  · rw [names_rename]
    intro htop
    obtain ⟨s, hs, htop⟩ := List.mem_map.1 htop
    exact hnames s hs htop
  · intro rule hrule
    obtain ⟨before, hbefore, rfl⟩ := List.mem_map.1 hrule
    simpa using hb.wellFormed.filled before hbefore

end Grammar

end GrammarLab
