/-
Derivation trees, said without any of the algorithms that find them.

A tree is valid for a grammar if its leaves are terminals and every node has, as the symbols of its children, an
alternative of its own symbol. A derivation tree of a nonterminal is a valid tree with that nonterminal at its root
(`Grammar.Derivation`). The parser, the enumerator and the static analysis are all measured by this one notion.

- `Valid.mem_names`: the symbol of a node of a valid tree has a rule.
- `Valid.derivation`: a valid tree of a nonterminal is a derivation tree of it, since no leaf is a nonterminal.
- `allLeaves_eq_flatMap`, `maxHeight_le_iff`: leaves and heights of the children of a node, said with library operators.
-/
import GrammarLab.Tree.Basic
import GrammarLab.Proofs.Grammar.Built

namespace GrammarLab

namespace Grammar

/-- trees of the grammar: a terminal, or a symbol over valid trees for the symbols of one of its alternatives -/
inductive Valid (g : Grammar) : ParseTree → Prop where
  | leaf {s : Symbol} (terminal : g.isTerminal s = true) : Valid g (.leaf s)
  | node {s : Symbol} {cs : List ParseTree} (rule : cs.map ParseTree.symbol ∈ g.alternatives s)
      (below : ∀ c ∈ cs, Valid g c) : Valid g (.node s cs)

/-- the derivation trees of a nonterminal -/
structure Derivation (g : Grammar) (s : Symbol) (t : ParseTree) : Prop where
  root : t.nonTerminal? = some s
  valid : g.Valid t

variable {g : Grammar} {s : Symbol} {t : ParseTree} {cs : List ParseTree}

theorem Valid.rule_mem (h : g.Valid (.node s cs)) : cs.map ParseTree.symbol ∈ g.alternatives s := by
  cases h with
  | node rule _ => exact rule

theorem Valid.of_mem (h : g.Valid (.node s cs)) {c : ParseTree} (hc : c ∈ cs) : g.Valid c := by
  cases h with
  | node _ below => exact below c hc

theorem Valid.mem_names (h : g.Valid (.node s cs)) : s ∈ g.names := mem_names_of_mem_alternatives h.rule_mem

theorem valid_leaf_iff : g.Valid (.leaf s) ↔ s ∉ g.names := by
  rw [← isTerminal_iff]
  constructor
  · intro h
    cases h with
    | leaf terminal => exact terminal
  · exact .leaf

theorem Valid.derivation (h : g.Valid t) (hs : t.symbol ∈ g.names) : g.Derivation t.symbol t := by
  cases t with
  | leaf s => exact absurd hs (valid_leaf_iff.1 h)
  | node s cs => exact ⟨rfl, h⟩

theorem Derivation.symbol_eq (h : g.Derivation s t) : t.symbol = s := by
  obtain ⟨root, -⟩ := h
  cases t with
  | leaf a => cases root
  | node a cs => exact Option.some.inj root

theorem derivation_node_iff {a : Symbol} : g.Derivation a (.node s cs) ↔ s = a ∧ g.Valid (.node s cs) :=
  ⟨fun h => ⟨h.symbol_eq, h.valid⟩, fun h => ⟨congrArg some h.1, h.2⟩⟩

theorem not_derivation_leaf {a : Symbol} : ¬ g.Derivation a (.leaf s) := fun h => by cases h.root

/-- a tree for each symbol of an alternative makes a tree of the nonterminal -/
theorem derivation_node (rule : cs.map ParseTree.symbol ∈ g.alternatives s) (below : ∀ c ∈ cs, g.Valid c) :
    g.Derivation s (.node s cs) := ⟨rfl, .node rule below⟩

/-- trees chosen one by one for the symbols of a list -/
theorem exists_trees {P : ParseTree → Prop} {rhs : List Symbol} (h : ∀ a ∈ rhs, ∃ t, t.symbol = a ∧ P t) :
    ∃ ts : List ParseTree, ts.map ParseTree.symbol = rhs ∧ ∀ t ∈ ts, P t := by
  induction rhs with
  | nil => exact ⟨[], rfl, by simp⟩
  | cons a rhs ih =>
    obtain ⟨⟨t, rfl, ht⟩, hrest⟩ := List.forall_mem_cons.1 h
    obtain ⟨ts, rfl, hts⟩ := ih hrest
    exact ⟨t :: ts, rfl, List.forall_mem_cons.2 ⟨ht, hts⟩⟩

end Grammar

namespace ParseTree

theorem allLeaves_eq_flatMap (ts : List ParseTree) : allLeaves ts = ts.flatMap leaves := by
  induction ts with
  | nil => rfl
  | cons t ts ih => rw [allLeaves, ih, List.flatMap_cons]

@[simp] theorem leaves_leaf (s : Symbol) : (leaf s).leaves = [s] := rfl

@[simp] theorem leaves_node (s : Symbol) (cs : List ParseTree) : (node s cs).leaves = cs.flatMap leaves :=
  allLeaves_eq_flatMap cs

theorem maxHeight_le_iff (ts : List ParseTree) (n : Nat) : maxHeight ts ≤ n ↔ ∀ t ∈ ts, t.height ≤ n := by
  induction ts with
  | nil => simp [maxHeight]
  | cons t ts ih => rw [maxHeight, Nat.max_le, ih, List.forall_mem_cons]

/-- a node is at most `n + 2` high if and only if each of its children is at most `n + 1` high -/
theorem height_node_le_iff (s : Symbol) (cs : List ParseTree) (n : Nat) :
    (node s cs).height ≤ n + 2 ↔ ∀ c ∈ cs, c.height ≤ n + 1 := by
  cases cs with
  | nil => simp [height]
  | cons c cs =>
    rw [← maxHeight_le_iff, maxHeight, height]
    omega

theorem two_le_height_node (s : Symbol) (cs : List ParseTree) : 2 ≤ (node s cs).height := by
  cases cs with
  | nil => simp [height]
  | cons c cs =>
    have hc : 1 ≤ c.height := by
      cases c with
      | leaf a => simp [height]
      | node a ds => cases ds <;> simp [height]
    rw [height]
    omega

end ParseTree

end GrammarLab
