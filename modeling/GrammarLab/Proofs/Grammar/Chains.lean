/-
Chains of rules: what the start symbol leads to, and what comes back to itself.

Main statements, for a grammar that was built:
- `unreachable_exact`: the unreachable nonterminals are those that no chain of rules from the start symbol leads to, and
  the worklist that they are found by comes to an end in whatever order it is worked off;
- `mem_cyclic_iff`: the cyclic nonterminals are those that become themselves alone, in one or more steps, while all the
  company that they have on the way vanishes;
- `infinitelyAmbiguous_iff`: what the analysis reports as infinite ambiguity is a cyclic nonterminal that is reachable
  and realizable, nothing more. Whether a derivation tree of the start symbol has a place for it is not asked.
-/
import GrammarLab.Proofs.Grammar.Generating
import GrammarLab.Proofs.Relation.Closure
import GrammarLab.Proofs.Relation.Reach

namespace GrammarLab.Grammar

variable {g : Grammar} {s a b : Symbol}

/-! ## What leads where -/

/-- an alternative of `s` holds the nonterminal `a` -/
def Mentions (g : Grammar) (s a : Symbol) : Prop := a ∈ g.names ∧ ∃ rhs ∈ g.alternatives s, a ∈ rhs

/-- a chain of rules leads from `s` to `a` -/
def Leads (g : Grammar) : Symbol → Symbol → Prop := Relation.ReflTransGen g.Mentions

theorem Leads.mem_names (h : g.Leads s a) (hs : s ∈ g.names) : a ∈ g.names := by
  cases h with
  | refl => exact hs
  | tail _ last => exact last.1

theorem Built.links_rows (hb : g.Built) (f : Rule → List Symbol) :
    (Relation.ofList (g.rules.map fun r => (r.name, f r))).Links s a ↔ ∃ r ∈ g.rules, r.name = s ∧ a ∈ f r := by
  rw [Relation.links_ofList]
  · constructor
    · rintro ⟨ys, hrow, ha⟩
      obtain ⟨r, hr, hpair⟩ := List.mem_map.1 hrow
      obtain ⟨rfl, rfl⟩ := Prod.mk.inj hpair
      exact ⟨r, hr, rfl, ha⟩
    · rintro ⟨r, hr, rfl, ha⟩
      exact ⟨f r, List.mem_map.2 ⟨r, hr, rfl⟩, ha⟩
  · have hkeys : (g.rules.map fun r => (r.name, f r)).map Prod.fst = g.names := by
      simp [names, List.map_map, Function.comp_def]
    rw [hkeys]
    exact hb.names_nodup

/-- the rule of a name, asked for its alternatives, is the grammar asked for them -/
theorem Built.exists_rule_iff (hb : g.Built) {p : List Symbol → Prop} :
    (∃ r ∈ g.rules, r.name = s ∧ ∃ rhs ∈ r.alternatives, p rhs) ↔ ∃ rhs ∈ g.alternatives s, p rhs := by
  constructor
  · rintro ⟨r, hr, rfl, rhs, hrhs, hp⟩
    exact ⟨rhs, (hb.alternatives_of_mem hr).symm ▸ hrhs, hp⟩
  · rintro ⟨rhs, hrhs, hp⟩
    obtain ⟨r, hr, hname, hmem⟩ := exists_rule_of_mem_alternatives hrhs
    exact ⟨r, hr, hname, rhs, hmem, hp⟩

theorem Built.links_mentions (hb : g.Built) : g.mentions.Links s a ↔ g.Mentions s a := by
  rw [mentions, hb.links_rows, Mentions, ← hb.exists_rule_iff]
  constructor
  · rintro ⟨r, hr, hname, ha⟩
    obtain ⟨hmem, ha⟩ := List.mem_filter.1 ha
    obtain ⟨rhs, hrhs, hmem⟩ := List.mem_flatten.1 hmem
    exact ⟨(isNonTerminal_iff g a).1 ha, r, hr, hname, rhs, hrhs, hmem⟩
  · rintro ⟨ha, r, hr, hname, rhs, hrhs, hmem⟩
    exact ⟨r, hr, hname, List.mem_filter.2 ⟨List.mem_flatten.2 ⟨rhs, hrhs, hmem⟩, (isNonTerminal_iff g a).2 ha⟩⟩

theorem Built.links_mentions_eq (hb : g.Built) : g.mentions.Links = g.Mentions :=
  funext₂ fun _ _ => propext hb.links_mentions

/-- what paths from the start symbol lead to is what chains of rules from it lead to -/
theorem Built.exists_path_iff (hb : g.Built) :
    (∃ b ∈ [s], Relation.ReflTransGen g.mentions.Links b a) ↔ g.Leads s a := by
  rw [hb.links_mentions_eq]
  simp [Leads]

/-- **The unreachable nonterminals are those that no chain of rules from the start symbol leads to.** -/
theorem mem_unreachable_iff (hb : g.Built) (hs : g.start? = some s) :
    a ∈ g.unreachable ↔ a ∈ g.names ∧ ¬ g.Leads s a := by
  have hfirst : g.names.take 1 = [s] := by
    obtain ⟨rest, hrest⟩ := List.head?_eq_some_iff.1 hs
    simp [hrest]
  have hreach : a ∈ g.mentions.reach (g.names.take 1) ↔ g.Leads s a := by
    rw [Relation.mem_reach, hfirst, hb.exists_path_iff]
  rw [unreachable, hb.namesOf_eq_filter, List.mem_filter, ← hreach]
  simp

/-- the nonterminals in the alternatives, as often as they stand there -/
def occurrences (g : Grammar) : List Symbol := (g.rules.flatMap fun r => r.alternatives.flatten).filter g.isNonTerminal

/-- before anything has been seen, a worklist owes all occurrences -/
theorem Built.unread_mentions (hb : g.Built) : g.mentions.unread ∅ = g.occurrences := by
  let row (r : Rule) : List Symbol := r.alternatives.flatten.filter g.isNonTerminal
  have hfst : (g.rules.map fun r => (r.name, row r)).map Prod.fst = g.names := by
    simp [names, List.map_map, Function.comp_def]
  have hnodup : ((g.rules.map fun r => (r.name, row r)).map Prod.fst).Nodup := hfst.symm ▸ hb.names_nodup
  have hkeys : g.mentions.keys = g.names := (Relation.keys_ofList hnodup).trans hfst
  have htargets : ∀ r ∈ g.rules, g.mentions.targets r.name = row r := fun r hr =>
    Relation.targets_ofList hnodup (List.mem_map.2 ⟨r, hr, rfl⟩)
  have hall : (g.names.filter fun k => k ∉ (∅ : Std.HashSet Symbol)) = g.names := by simp
  calc g.mentions.unread ∅
    _ = g.names.flatMap g.mentions.targets := by rw [Relation.unread, hkeys, hall]
    _ = g.rules.flatMap fun r => g.mentions.targets r.name := List.flatMap_map _ _ _
    _ = g.rules.flatMap row := List.flatMap_congr htargets
    _ = g.occurrences := List.filter_flatMap.symm

/-- **The unreachable nonterminals are exact, and the worklist that finds them comes to an end.** In whatever order the
worklist is worked off that begins with the start symbol, it takes at most one turn more than nonterminals occur in the
alternatives; it can be worked off as long as something waits; and when nothing waits any more, the symbols seen are those
that a chain of rules leads to. The analysis works it off in one of these orders and reports the other nonterminals. -/
theorem unreachable_exact (hb : g.Built) (hs : g.start? = some s) :
    (∀ n w, g.mentions.Turns n (.start [s]) w →
      n ≤ 1 + g.occurrences.length ∧ (w.waiting ≠ [] → ∃ w', g.mentions.Turn w w') ∧
        (w.waiting = [] → ∀ a, a ∈ w.seen ↔ g.Leads s a)) ∧
      (∃ n, g.mentions.Turns n (.start [s]) ⟨g.mentions.reach [s], []⟩) ∧
      ∀ a, a ∈ g.unreachable ↔ a ∈ g.names ∧ ¬ g.Leads s a := by
  refine ⟨fun n w turns => ⟨?_, Relation.exists_turn, fun hw a => ?_⟩, Relation.turns_reach _ _,
    fun a => mem_unreachable_iff hb hs⟩
  · have hcoherent : g.mentions.Coherent := Relation.coherent_ofList _
    calc n
      _ ≤ g.mentions.owed w + n := Nat.le_add_left n _
      _ = g.mentions.owed (.start [s]) := (turns.owed_eq hcoherent).symm
      _ = 1 + (g.mentions.unread ∅).length := rfl
      _ = 1 + g.occurrences.length := by rw [hb.unread_mentions]
  · rw [(turns.explores (Relation.explores_start _ _)).mem_seen_iff hw, hb.exists_path_iff]

/-- a grammar whose start symbol waits again while it is looked up, and with two nonterminals that lead only to each other
and back to the rest -/
def detachedSample : Grammar :=
  ⟨[⟨"S", [["A", "B", "A"], ["a"]]⟩, ⟨"A", [["S", "B"], ["A"]]⟩, ⟨"C", [["S", "D"]]⟩, ⟨"D", [["C"]]⟩, ⟨"B", [[]]⟩]⟩

/-- `C` and `D` are reported, and whoever works off the worklist takes at most ten turns -/
theorem unreachable_exact_detached :
    detachedSample.Built ∧ detachedSample.start? = some "S" ∧
      (∀ n w, detachedSample.mentions.Turns n (.start ["S"]) w →
        n ≤ 10 ∧ (w.waiting ≠ [] → ∃ w', detachedSample.mentions.Turn w w') ∧
          (w.waiting = [] → ∀ a, a ∈ w.seen ↔ detachedSample.Leads "S" a)) ∧
      (∃ n, detachedSample.mentions.Turns n (.start ["S"]) ⟨detachedSample.mentions.reach ["S"], []⟩) ∧
      (∀ a, a ∈ detachedSample.unreachable ↔ a ∈ detachedSample.names ∧ ¬ detachedSample.Leads "S" a) ∧
      "C" ∈ detachedSample.unreachable ∧ "D" ∈ detachedSample.unreachable ∧ "B" ∉ detachedSample.unreachable := by
  have hb : detachedSample.Built :=
    ⟨[("S", ["A", "B", "A"]), ("S", ["a"]), ("A", ["S", "B"]), ("A", ["A"]), ("C", ["S", "D"]), ("D", ["C"]), ("B", [])],
      by rfl⟩
  obtain ⟨hruns, hreach, hexact⟩ := unreachable_exact hb (s := "S") rfl
  have hoccurrences : 1 + detachedSample.occurrences.length = 10 := by decide
  rw [hoccurrences] at hruns
  -- the rules of these three mention no other nonterminal
  have hclosed : ∀ a, detachedSample.Leads "S" a → a ∈ ["S", "A", "B"] := by
    intro a h
    induction h with
    | refl => exact List.mem_cons_self
    | @tail b c _ last ih =>
      obtain ⟨hname, rhs, hrhs, hc⟩ := last
      have hrules : ∀ b ∈ ["S", "A", "B"], ∀ rhs ∈ detachedSample.alternatives b, ∀ c ∈ rhs, c ∈ detachedSample.names →
          c ∈ ["S", "A", "B"] := by decide
      exact hrules b ih rhs hrhs c hc hname
  have hB : detachedSample.Leads "S" "B" := .single ⟨by decide, ["A", "B", "A"], by decide, by decide⟩
  exact ⟨hb, rfl, hruns, hreach, hexact, (hexact "C").2 ⟨by decide, fun h => absurd (hclosed "C" h) (by decide)⟩,
    (hexact "D").2 ⟨by decide, fun h => absurd (hclosed "D" h) (by decide)⟩, fun h => ((hexact "B").1 h).2 hB⟩

/-! ## What comes back -/

/-- `s` can become the nonterminal `a`: an alternative holds `a`, and all else in it vanishes -/
def Collapses (g : Grammar) (s a : Symbol) : Prop :=
  a ∈ g.names ∧ ∃ before after, before ++ a :: after ∈ g.alternatives s ∧ ∀ b ∈ before ++ after, g.Vanishes b

/-- `s` comes back to itself alone in one or more steps -/
def Cyclic (g : Grammar) (s : Symbol) : Prop := Relation.TransGen g.Collapses s s

theorem Cyclic.mem_names (h : g.Cyclic s) : s ∈ g.names := by
  cases h with
  | single last => exact last.1
  | tail _ last => exact last.1

/-- what is left of an alternative is a nonterminal with nothing but vanishing symbols around it -/
theorem mem_survivors_iff {vanishes : Symbol → Bool} (hnames : ∀ b, vanishes b = true → b ∈ g.names)
    {rhs : List Symbol} :
    a ∈ g.survivors vanishes rhs ↔
      a ∈ g.names ∧ ∃ before after, rhs = before ++ a :: after ∧ ∀ b ∈ before ++ after, vanishes b = true := by
  have hfilter : ∀ l : List Symbol, (l.filter fun b => !vanishes b) = [] ↔ ∀ b ∈ l, vanishes b = true := by
    intro l
    simp [List.filter_eq_nil_iff]
  constructor
  · intro ha
    unfold survivors at ha
    split at ha
    · rename_i hnil
      have hall := (hfilter rhs).1 hnil
      obtain ⟨before, after, rfl⟩ := List.append_of_mem ha
      refine ⟨hnames a (hall a ha), before, after, rfl, fun b hb => hall b ?_⟩
      rcases List.mem_append.1 hb with hb | hb
      · exact List.mem_append_left _ hb
      · exact List.mem_append_right _ (List.mem_cons_of_mem _ hb)
    · rename_i c hone
      obtain ⟨before, after, rfl, hbefore, -, hafter⟩ := List.filter_eq_cons_iff.1 hone
      split_ifs at ha with hc
      · obtain rfl : a = c := List.mem_singleton.1 ha
        refine ⟨(isNonTerminal_iff g a).1 hc, before, after, rfl, fun b hb => ?_⟩
        rcases List.mem_append.1 hb with hb | hb
        · simpa using hbefore b hb
        · exact (hfilter after).1 hafter b hb
      · exact absurd ha List.not_mem_nil
    · exact absurd ha List.not_mem_nil
  · rintro ⟨ha, before, after, rfl, hall⟩
    have hbefore := (hfilter before).2 fun b hb => hall b (List.mem_append_left _ hb)
    have hafter := (hfilter after).2 fun b hb => hall b (List.mem_append_right _ hb)
    cases hv : vanishes a with
    | true => simp [survivors, List.filter_append, hbefore, hafter, hv]
    | false => simp [survivors, List.filter_append, hbefore, hafter, hv, (isNonTerminal_iff g a).2 ha]

theorem Built.links_collapses (hb : g.Built) {n : List Symbol} (hn : ∀ b, b ∈ n ↔ g.Vanishes b) :
    (g.collapses n).Links s a ↔ g.Collapses s a := by
  have hknown : ∀ b, (Std.HashSet.ofList n).contains b = true ↔ g.Vanishes b := fun b => by simp [hn]
  have hnames : ∀ b, (Std.HashSet.ofList n).contains b = true → b ∈ g.names := fun b h =>
    ((hknown b).1 h).realizable.mem_names
  rw [collapses, hb.links_rows]
  constructor
  · rintro ⟨r, hr, rfl, ha⟩
    obtain ⟨rhs, hrhs, ha⟩ := List.mem_flatMap.1 ha
    obtain ⟨hna, before, after, rfl, hall⟩ := (mem_survivors_iff hnames).1 ha
    exact ⟨hna, before, after, (hb.alternatives_of_mem hr).symm ▸ hrhs, fun b hbm => (hknown b).1 (hall b hbm)⟩
  · rintro ⟨hna, before, after, hmem, hall⟩
    obtain ⟨r, hr, hname, hrhs⟩ := exists_rule_of_mem_alternatives hmem
    exact ⟨r, hr, hname, List.mem_flatMap.2 ⟨_, hrhs, (mem_survivors_iff hnames).2
      ⟨hna, before, after, rfl, fun b hbm => (hknown b).2 (hall b hbm)⟩⟩⟩

/-- **The cyclic nonterminals are those that come back to themselves alone.** -/
theorem mem_cyclic_iff (hb : g.Built) {n : List Symbol} (hn : ∀ b, b ∈ n ↔ g.Vanishes b) :
    a ∈ g.cyclic n ↔ g.Cyclic a := by
  have hlinks : (g.collapses n).Links = g.Collapses := by
    funext x y
    exact propext (hb.links_collapses hn)
  have hcoherent : (g.collapses n).Coherent := Relation.coherent_ofList _
  have hloops : a ∈ (g.collapses n).closure.loops ↔ g.Cyclic a := by
    rw [Relation.closure, Relation.mem_loops_closureBy hcoherent, hlinks, Cyclic]
  rw [Grammar.cyclic, hb.namesOf_eq_filter, List.mem_filter, Std.HashSet.contains_ofList, List.contains_iff_mem, hloops]
  exact ⟨And.right, fun h => ⟨h.mem_names, h⟩⟩

/-! ## What the analysis says -/

/-- the four sets of an analysis, each said of chains and trees -/
structure Analysed (g : Grammar) (s : Symbol) (a : Analysis) : Prop where
  unreachable : ∀ b, b ∈ a.unreachable ↔ b ∈ g.names ∧ ¬ g.Leads s b
  unrealizable : ∀ b, b ∈ a.unrealizable ↔ b ∈ g.names ∧ ¬ g.Realizable b
  nullable : ∀ b, b ∈ a.nullable ↔ g.Vanishes b
  cyclic : ∀ b, b ∈ a.cyclic ↔ g.Cyclic b

theorem analysed (hb : g.Built) (hs : g.start? = some s) {a : Analysis} (ha : g.analyse = .ok a) :
    g.Analysed s a := by
  obtain ⟨u, n, hu, hn, rfl⟩ := analyse_eq_ok_iff.1 ha
  exact ⟨fun _ => mem_unreachable_iff hb hs, fun _ => mem_unrealizable_iff hb hu, fun _ => mem_nullable_iff hb hn,
    fun _ => mem_cyclic_iff hb fun _ => mem_nullable_iff hb hn⟩

/-- **What is reported as infinite ambiguity**: a nonterminal that comes back to itself is reachable and realizable. -/
theorem Analysed.infinitelyAmbiguous_iff {a : Analysis} (h : g.Analysed s a) :
    a.infinitelyAmbiguous = true ↔ ∃ b, g.Cyclic b ∧ g.Leads s b ∧ g.Realizable b := by
  have hset : ∀ {l : List Symbol} {b : Symbol} {P : Prop}, b ∈ g.names → (b ∈ l ↔ b ∈ g.names ∧ ¬ P) →
      (b ∉ l ↔ P) := by
    intro l b P hbn hl
    rw [hl, not_and, not_not]
    exact ⟨fun h => h hbn, fun h _ => h⟩
  simp only [Analysis.infinitelyAmbiguous, List.any_eq_true, Bool.and_eq_true, Bool.not_eq_true',
    List.contains_eq_mem, decide_eq_false_iff_not, h.cyclic]
  refine exists_congr fun b => and_congr_right fun hcyclic => ?_
  rw [hset hcyclic.mem_names (h.unreachable b), hset hcyclic.mem_names (h.unrealizable b)]

end GrammarLab.Grammar
