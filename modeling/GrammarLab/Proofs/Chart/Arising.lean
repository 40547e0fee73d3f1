/-
The items that follow from the rules of the chart, said without queues, limits or the order of work.

`Arises g start tokens p i` says that item `i` can be had at position `p`: the item of the top name at the end, an item
moved over a token, an alternative of an expected nonterminal, or an item moved over the tree of a completed one. Empty
trees need no rule of their own. What the parser finds is a part of these items, and all of them if nothing was cut off.

Main statements:
- `Arises.shape`: an item holds one tree for each matched symbol, and its symbols are an alternative of its name, or it
  is the item of the top name;
- `Arises.sound`: where no alternative holds the top name, the trees of an item are valid and spell the tokens from its
  position to its end;
- `Arises.over_valid`: an item that expects the symbol of a valid tree can be moved over it wherever the tokens spell
  the tree.
-/
import GrammarLab.Chart.Parse
import GrammarLab.Proofs.Tree.Derivation

namespace GrammarLab.Chart

/-! ## Moving the mark -/

namespace Item

variable {i j : Item} {s : Symbol} {t : ParseTree}

theorem over?_eq_some_iff :
    i.over? s t = some j ↔
      ∃ rest, i.pending = s :: rest ∧ j = ⟨i.name, rest, s :: i.matched, t :: i.parsed, i.finish⟩ := by
  unfold over?
  cases h : i.pending with
  | nil => simp
  | cons p rest =>
    by_cases hp : p = s
    · simp [hp, eq_comm]
    · simp [hp]

theorem rule_of_over? (h : i.over? s t = some j) : j.rule = i.rule := by
  obtain ⟨rest, hrest, rfl⟩ := over?_eq_some_iff.1 h
  simp [rule, hrest]

theorem mem_rule_of_over? (h : i.over? s t = some j) : s ∈ i.rule := by
  obtain ⟨rest, hrest, -⟩ := over?_eq_some_iff.1 h
  simp [rule, hrest]

theorem isCompleted_iff : i.isCompleted = true ↔ i.pending = [] := List.isEmpty_iff

end Item

/-! ## The rules of the chart -/

/-- the items that can be had at a position, where their matched part begins -/
inductive Arises (g : Grammar) (start : Symbol) (tokens : List Symbol) : Nat → Item → Prop where
  | top : Arises g start tokens tokens.length (.predict topName [start] tokens.length)
  | scan {p : Nat} {a : Symbol} {i j : Item} (later : Arises g start tokens (p + 1) i) (token : tokens[p]? = some a)
      (terminal : g.isTerminal a = true) (moved : i.over? a (.leaf a) = some j) : Arises g start tokens p j
  | predict {p : Nat} {i : Item} {s : Symbol} {more rhs : List Symbol} (asking : Arises g start tokens p i)
      (expected : i.pending = s :: more) (rule : rhs ∈ g.alternatives s) : Arises g start tokens p (.predict s rhs p)
  | complete {p : Nat} {i prev j : Item} (done : Arises g start tokens p i) (completed : i.isCompleted = true)
      (waiting : Arises g start tokens i.finish prev) (moved : prev.over? i.name i.tree = some j) :
      Arises g start tokens p j

namespace Arises

variable {g : Grammar} {start : Symbol} {tokens : List Symbol} {p : Nat} {i : Item}

theorem le_finish (h : Arises g start tokens p i) : p ≤ i.finish := by
  induction h with
  | top => exact Nat.le_refl _
  | scan _ _ _ moved ih =>
    obtain ⟨rest, -, rfl⟩ := Item.over?_eq_some_iff.1 moved
    exact Nat.le_of_succ_le ih
  | predict _ _ _ _ => exact Nat.le_refl _
  | complete _ _ _ moved ihi ihprev =>
    obtain ⟨rest, -, rfl⟩ := Item.over?_eq_some_iff.1 moved
    exact Nat.le_trans ihi ihprev

theorem finish_le (h : Arises g start tokens p i) : i.finish ≤ tokens.length := by
  induction h with
  | top => exact Nat.le_refl _
  | scan _ _ _ moved ih =>
    obtain ⟨rest, -, rfl⟩ := Item.over?_eq_some_iff.1 moved
    exact ih
  | predict asking _ _ ih => exact Nat.le_trans asking.le_finish ih
  | complete _ _ _ moved _ ihprev =>
    obtain ⟨rest, -, rfl⟩ := Item.over?_eq_some_iff.1 moved
    exact ihprev

/-! ## What an item looks like -/

/-- what every item of the chart looks like -/
structure Shape (g : Grammar) (start : Symbol) (tokens : List Symbol) (i : Item) : Prop where
  rule : i.rule ∈ g.alternatives i.name ∨ i.name = topName ∧ i.rule = [start] ∧ i.finish = tokens.length
  symbols : i.parsed.map ParseTree.symbol = i.matched
  terminal : ∀ s, ParseTree.leaf s ∈ i.parsed → g.isTerminal s = true

theorem Shape.over {s : Symbol} {t : ParseTree} {j : Item} (h : Shape g start tokens i) (moved : i.over? s t = some j)
    (hs : t.symbol = s) (ht : ∀ a, t = .leaf a → g.isTerminal a = true) : Shape g start tokens j := by
  have hrule := Item.rule_of_over? moved
  obtain ⟨rest, -, rfl⟩ := Item.over?_eq_some_iff.1 moved
  refine ⟨?_, ?_, fun a ha => ?_⟩
  · rw [hrule]
    exact h.rule
  · simp [h.symbols, hs]
  · rcases List.mem_cons.1 ha with ha | ha
    · exact ht a ha.symm
    · exact h.terminal a ha

theorem shape (h : Arises g start tokens p i) : Shape g start tokens i := by
  induction h with
  | top => exact ⟨Or.inr ⟨rfl, by simp [Item.predict, Item.rule], rfl⟩, rfl, by simp [Item.predict]⟩
  | scan _ _ terminal moved ih =>
    exact ih.over moved rfl fun a ha => by cases ha; exact terminal
  | predict _ _ rule _ => exact ⟨Or.inl (by simpa [Item.predict, Item.rule] using rule), rfl, by simp [Item.predict]⟩
  | complete _ _ _ moved _ ihprev => exact ihprev.over moved rfl fun a ha => by cases ha

/-- a completed item of the top name holds one tree, a node of the start symbol, and ends where the input does -/
theorem eq_of_name_eq_top (h : Arises g start tokens p i) (hb : g.Built) (hs : start ∈ g.names)
    (hname : i.name = topName) (hdone : i.isCompleted = true) :
    ∃ cs, i = ⟨topName, [], [start], [.node start cs], tokens.length⟩ := by
  obtain ⟨rule, symbols, terminal⟩ := h.shape
  have hpending := Item.isCompleted_iff.1 hdone
  rcases rule with rule | ⟨-, hrule, hfinish⟩
  · rw [hname] at rule
    exact absurd (Grammar.mem_names_of_mem_alternatives rule) hb.topName_not_mem
  · have hmatched : i.matched = [start] := by simpa [Item.rule, hpending] using hrule
    rw [hmatched] at symbols
    obtain ⟨t, ht, hsym⟩ := List.map_eq_singleton_iff.1 symbols
    cases t with
    | leaf a =>
      obtain rfl : a = start := hsym
      have hterm := terminal a (by rw [ht]; exact List.mem_singleton_self _)
      exact absurd hs ((Grammar.isTerminal_iff g a).1 hterm)
    | node a cs =>
      obtain rfl : a = start := hsym
      obtain ⟨name, pending, matched, parsed, finish⟩ := i
      simp only at hname hpending hmatched ht hfinish
      subst hname hpending hmatched ht hfinish
      exact ⟨cs, rfl⟩

/-! ## What an item stands for -/

/-- no item holds the top name in its rule -/
theorem topName_not_mem_rule (h : Arises g start tokens p i) (hb : g.Built) (htop : g.TopFree) (hs : start ∈ g.names) :
    topName ∉ i.rule := by
  rcases h.shape.rule with rule | ⟨-, rule, -⟩
  · exact htop.not_mem rule
  · rw [rule, List.mem_singleton]
    exact fun e => hb.topName_not_mem (e ▸ hs)

/-- an item moved over the tree of a completed one: the completed one is of a nonterminal -/
theorem name_mem_names {q : Nat} {prev j : Item} (h : Arises g start tokens p i) (hprev : Arises g start tokens q prev)
    (moved : prev.over? i.name i.tree = some j) (hb : g.Built) (htop : g.TopFree) (hs : start ∈ g.names) :
    i.name ∈ g.names := by
  rcases h.shape.rule with rule | ⟨name, -, -⟩
  · exact Grammar.mem_names_of_mem_alternatives rule
  · have hmem := Item.mem_rule_of_over? moved
    rw [name] at hmem
    exact absurd hmem (hprev.topName_not_mem_rule hb htop hs)

/-- the trees of an item are valid, and their leaves are the tokens from its position to its end -/
structure Sound (g : Grammar) (tokens : List Symbol) (p : Nat) (i : Item) : Prop where
  valid : ∀ t ∈ i.parsed, g.Valid t
  spelled : tokens.drop p = i.parsed.flatMap ParseTree.leaves ++ tokens.drop i.finish

theorem sound (h : Arises g start tokens p i) (hb : g.Built) (htop : g.TopFree) (hs : start ∈ g.names) :
    Sound g tokens p i := by
  induction h with
  | top => exact ⟨by simp [Item.predict], rfl⟩
  | @scan p a i j _ token terminal moved ih =>
    obtain ⟨rest, -, rfl⟩ := Item.over?_eq_some_iff.1 moved
    obtain ⟨hp, rfl⟩ := List.getElem?_eq_some_iff.1 token
    refine ⟨List.forall_mem_cons.2 ⟨.leaf terminal, ih.valid⟩, ?_⟩
    rw [List.drop_eq_getElem_cons hp, ih.spelled]
    rfl
  | predict _ _ _ _ => exact ⟨by simp [Item.predict], rfl⟩
  | @complete p i prev j done completed waiting moved ihi ihprev =>
    have hname : i.name ∈ g.names := name_mem_names done waiting moved hb htop hs
    have hpending := Item.isCompleted_iff.1 completed
    have hrule : i.parsed.map ParseTree.symbol ∈ g.alternatives i.name := by
      rcases done.shape.rule with rule | ⟨name, -, -⟩
      · rw [done.shape.symbols]
        simpa [Item.rule, hpending] using rule
      · exact absurd (name ▸ hname) hb.topName_not_mem
    obtain ⟨rest, -, rfl⟩ := Item.over?_eq_some_iff.1 moved
    refine ⟨List.forall_mem_cons.2 ⟨.node hrule ihi.valid, ihprev.valid⟩, ?_⟩
    rw [ihi.spelled, ihprev.spelled]
    simp [Item.tree]

/-! ## What a tree gives rise to -/

/-- an alternative predicted at `f` moves over trees `after` for its last symbols, if it can be moved over each of them -/
theorem over_children {s : Symbol} {f : Nat} (hf : f ≤ tokens.length) (after : List ParseTree) :
    ∀ (before : List ParseTree) (p : Nat), p ≤ tokens.length →
      Arises g start tokens f (.predict s ((before ++ after).map ParseTree.symbol) f) →
      (∀ c ∈ after, ∀ q e, q ≤ tokens.length → e ≤ tokens.length → tokens.drop q = c.leaves ++ tokens.drop e →
        ∀ prev j, Arises g start tokens e prev → prev.over? c.symbol c = some j → Arises g start tokens q j) →
      tokens.drop p = after.flatMap ParseTree.leaves ++ tokens.drop f →
      Arises g start tokens p
        ⟨s, (before.map ParseTree.symbol).reverse, after.map ParseTree.symbol, after, f⟩ := by
  induction after with
  | nil =>
    intro before p hp hpredict _ hspelled
    have hpf : p = f := by
      have := congrArg List.length hspelled
      simp only [List.flatMap_nil, List.nil_append, List.length_drop] at this
      omega
    simpa [Item.predict, hpf] using hpredict
  | cons c after ih =>
    intro before p hp hpredict hover hspelled
    -- the place between the tree `c` and those after it
    have hrest : tokens.drop (p + c.leaves.length) = after.flatMap ParseTree.leaves ++ tokens.drop f := by
      rw [← List.drop_drop, hspelled, List.flatMap_cons, List.append_assoc, List.drop_left]
    have hle : p + c.leaves.length ≤ tokens.length := by
      have := congrArg List.length hspelled
      simp only [List.flatMap_cons, List.length_append, List.length_drop] at this
      omega
    have hnext := ih (before ++ [c]) (p + c.leaves.length) hle (by simpa using hpredict)
      (fun d hd => hover d (List.mem_cons_of_mem _ hd)) hrest
    refine hover c List.mem_cons_self p _ hp hle ?_ _ _ hnext ?_
    · rw [hrest, hspelled, List.flatMap_cons, List.append_assoc]
    · exact Item.over?_eq_some_iff.2 ⟨(before.map ParseTree.symbol).reverse, by simp, rfl⟩

/-- an item moves over every valid tree of the symbol that it expects, from wherever the tokens spell that tree -/
theorem over_valid {t : ParseTree} (ht : g.Valid t) :
    ∀ q e, q ≤ tokens.length → e ≤ tokens.length → tokens.drop q = t.leaves ++ tokens.drop e →
      ∀ prev j, Arises g start tokens e prev → prev.over? t.symbol t = some j → Arises g start tokens q j := by
  induction ht with
  | @leaf a terminal =>
    intro q e hq he hspelled prev j hprev moved
    have hlen := congrArg List.length hspelled
    simp only [ParseTree.leaves_leaf, List.length_append, List.length_drop, List.length_singleton] at hlen
    obtain rfl : e = q + 1 := by omega
    have htoken : tokens[q]? = some a := by
      rw [← List.head?_drop, hspelled]
      rfl
    exact .scan hprev htoken terminal moved
  | @node s cs rule below ih =>
    intro q e hq he hspelled prev j hprev moved
    obtain ⟨rest, hrest, -⟩ := Item.over?_eq_some_iff.1 moved
    have hpredict : Arises g start tokens e (.predict s ((([] : List ParseTree) ++ cs).map ParseTree.symbol) e) :=
      .predict hprev hrest rule
    have hdone := over_children he cs [] q hq hpredict ih (by rw [hspelled, ParseTree.leaves_node])
    exact .complete hdone rfl hprev moved

end Arises

end GrammarLab.Chart
