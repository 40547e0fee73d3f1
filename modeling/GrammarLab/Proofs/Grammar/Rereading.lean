/-
Grammars written out and read again.

- `spelled_of_ofText`: in a grammar that was read, a name is a word without blanks and every symbol of an alternative is one
  character, neither a blank nor a bar;
- `splitRule_ruleText`, `readAlternatives_intercalate`: the text of a rule is parted after its name, even if there are
  arrows in the name, and its alternatives are found between the bars;
- `ofString_toText`: so the text of the grammar is read as the same grammar, except that an empty alternative comes back
  as the sign that was written for it.
-/
import GrammarLab.Grammar.Printer
import GrammarLab.Proofs.Grammar.Lines

namespace GrammarLab

open Text

theorem filter_intercalate {α : Type} (p : α → Bool) (sep : List α) (parts : List (List α)) :
    (sep.intercalate parts).filter p = (sep.filter p).intercalate (parts.map (List.filter p)) := by
  induction parts with
  | nil => rfl
  | cons part parts ih =>
    cases parts with
    | nil => simp
    | cons next parts =>
      rw [List.intercalate_cons_cons, List.filter_append, List.filter_append, ih]
      exact List.intercalate_cons_cons.symm

theorem forall_mem_intercalate {α : Type} {P : α → Prop} {sep : List α} {parts : List (List α)} (hsep : ∀ c ∈ sep, P c)
    (h : ∀ part ∈ parts, ∀ c ∈ part, P c) : ∀ c ∈ sep.intercalate parts, P c := by
  induction parts with
  | nil => simp
  | cons part parts ih =>
    obtain ⟨hpart, hparts⟩ := List.forall_mem_cons.1 h
    cases parts with
    | nil => simpa using hpart
    | cons next parts =>
      intro c hc
      rw [List.intercalate_cons_cons, List.mem_append, List.mem_append] at hc
      rcases hc with (hc | hc) | hc
      · exact hpart c hc
      · exact hsep c hc
      · exact ih hparts c hc

/-- alternatives between bars, with blanks around the bars, are read one by one -/
theorem readAlternatives_intercalate {parts : List (List Char)} (hne : parts ≠ [])
    (h : ∀ part ∈ parts, ∀ c ∈ part, isBlank c = false ∧ c ≠ '|') :
    readAlternatives (' ' :: " | ".toList.intercalate parts) = parts.map splitSymbols := by
  have hparts : parts.map (List.filter fun c => !isBlank c) = parts :=
    (List.map_congr_left fun part hpart => List.filter_eq_self.2 fun c hc => by simp [(h part hpart c hc).1]).trans
      (List.map_id' parts)
  have hsep : (" | ".toList.filter fun c => !isBlank c) = ['|'] := by decide
  rw [← readAlternatives_filter, List.filter_cons_of_neg (by decide), filter_intercalate, hparts, hsep, readAlternatives,
    splitAt_eq_splitOn, List.splitOn_intercalate '|' (fun part hpart hbar => (h part hpart '|' hbar).2 rfl) hne]

namespace Grammar

/-! ## What is read -/

/-- every symbol is one character, neither a blank nor a bar -/
def Letters (rhs : List Symbol) : Prop :=
  ∃ cs : List Char, rhs = cs.map String.singleton ∧ ∀ c ∈ cs, isBlank c = false ∧ c ≠ '|'

theorem letters_of_mem_readAlternatives {rest : List Char} {rhs : List Symbol} (h : rhs ∈ readAlternatives rest) :
    Letters rhs := by
  obtain ⟨part, hpart, rfl⟩ := List.mem_map.1 h
  refine ⟨part.filter fun c => !isBlank c, rfl, fun c hc => ?_⟩
  obtain ⟨hmem, hblank⟩ := List.mem_filter.1 hc
  exact ⟨by simpa using hblank, fun hbar => not_mem_of_mem_splitAt hpart (hbar ▸ hmem)⟩

/-- what is known of a rule that was read -/
structure Spelled (r : Rule) : Prop where
  name_ne : r.name.toList ≠ []
  name_solid : ∀ c ∈ r.name.toList, isBlank c = false
  filled : r.alternatives ≠ []
  letters : ∀ rhs ∈ r.alternatives, Letters rhs

theorem exists_of_forall₂ {α β : Type} {R : α → β → Prop} {l : List α} {k : List β} (h : List.Forall₂ R l k) {b : β}
    (hb : b ∈ k) : ∃ a, R a b := by
  induction h with
  | nil => cases hb
  | cons hab _ ih =>
    rcases List.mem_cons.1 hb with rfl | hb
    · exact ⟨_, hab⟩
    · exact ih hb

/-- every production comes from some line -/
theorem exists_line {g : Grammar} {cs : List Char} (h : ofText cs = .ok g) {p : Symbol × List Symbol}
    (hp : p ∈ g.productions) :
    ∃ line name rest, splitRule line = some (name, rest) ∧ p.1 = String.ofList name ∧ p.2 ∈ readAlternatives rest := by
  obtain ⟨rules, hlines, hread⟩ := ofText_eq_ok_iff.1 h
  obtain ⟨⟨name, rest⟩, hrule, hp⟩ := List.mem_flatMap.1 ((mem_productions_of_ofProductions hread).1 hp)
  obtain ⟨line, hline⟩ := exists_of_forall₂ hlines hrule
  obtain ⟨hne, hname, -⟩ := (parts_of_splitRule hline).body
  rw [ruleProductions_of_name hne hname] at hp
  obtain ⟨rhs, hrhs, rfl⟩ := List.mem_map.1 hp
  exact ⟨line, name, rest, hline, rfl, hrhs⟩

theorem mem_productions {g : Grammar} {r : Rule} {rhs : List Symbol} (hr : r ∈ g.rules) (hrhs : rhs ∈ r.alternatives) :
    (r.name, rhs) ∈ g.productions := List.mem_flatMap.2 ⟨r, hr, List.mem_map.2 ⟨rhs, hrhs, rfl⟩⟩

theorem wellFormed_of_ofText {g : Grammar} {cs : List Char} (h : ofText cs = .ok g) : g.WellFormed := by
  obtain ⟨rules, -, hread⟩ := ofText_eq_ok_iff.1 h
  exact Built.wellFormed ⟨_, hread⟩

theorem spelled_of_ofText {g : Grammar} {cs : List Char} (h : ofText cs = .ok g) {r : Rule} (hr : r ∈ g.rules) :
    Spelled r := by
  have hfilled := (wellFormed_of_ofText h).filled r hr
  obtain ⟨rhs, more, halternatives⟩ := List.exists_cons_of_ne_nil hfilled
  obtain ⟨line, name, rest, hrule, hname, -⟩ :=
    exists_line h (mem_productions hr (halternatives ▸ List.mem_cons_self : rhs ∈ r.alternatives))
  obtain ⟨hne, hsolid, -⟩ := (parts_of_splitRule hrule).body
  have hlist : r.name.toList = name := by simpa using congrArg String.toList hname
  refine ⟨hlist ▸ hne, hlist ▸ hsolid, hfilled, fun rhs hrhs => ?_⟩
  obtain ⟨line, name, rest, -, -, hmem⟩ := exists_line h (mem_productions hr hrhs)
  exact letters_of_mem_readAlternatives hmem

/-! ## What is written -/

/-- an alternative as it comes back: an empty one as the sign for it -/
def respelledAlternative (rhs : List Symbol) : List Symbol := if rhs = [] then [emptySign] else rhs

/-- the grammar as it comes back -/
def respelled (g : Grammar) : Grammar :=
  ⟨g.rules.map fun r => ⟨r.name, r.alternatives.map respelledAlternative⟩⟩

/-- the characters written for an alternative are the symbols that come back -/
theorem Letters.exists_text {rhs : List Symbol} (h : Letters rhs) :
    ∃ cs, (alternativeText rhs).toList = cs ∧ respelledAlternative rhs = cs.map String.singleton ∧ cs ≠ [] ∧
      ∀ c ∈ cs, isBlank c = false ∧ c ≠ '|' := by
  obtain ⟨cs, rfl, hcs⟩ := h
  cases cs with
  | nil => exact ⟨['ε'], rfl, rfl, List.cons_ne_nil _ _, by simp [isBlank]⟩
  | cons c cs => exact ⟨c :: cs, by simp [alternativeText, List.flatMap_map], by simp [respelledAlternative], by simp, hcs⟩

theorem Letters.splitSymbols_alternativeText {rhs : List Symbol} (h : Letters rhs) :
    splitSymbols (alternativeText rhs).toList = respelledAlternative rhs := by
  obtain ⟨cs, htext, hrhs, -, hcs⟩ := h.exists_text
  have hall : (cs.filter fun c => !isBlank c) = cs := List.filter_eq_self.2 fun c hc => by simp [(hcs c hc).1]
  rw [htext, hrhs, splitSymbols, hall]

/-- the texts of the alternatives of a rule -/
def alternativeTexts (r : Rule) : List (List Char) := r.alternatives.map fun rhs => (alternativeText rhs).toList

/-- the text of a rule behind its arrow -/
def restText (r : Rule) : List Char := ' ' :: " | ".toList.intercalate (alternativeTexts r)

theorem toList_ruleText (r : Rule) : (ruleText r).toList = r.name.toList ++ ([' '] ++ '-' :: '>' :: restText r) := by
  simp [ruleText, restText, alternativeTexts, String.toList_intercalate, Function.comp_def]

section

variable {r : Rule} (h : Spelled r)

include h

theorem Spelled.alternativeTexts_ne_nil : alternativeTexts r ≠ [] := fun hnil => h.filled (List.map_eq_nil_iff.1 hnil)

theorem Spelled.of_mem_alternativeTexts {part : List Char} (hpart : part ∈ alternativeTexts r) :
    part ≠ [] ∧ ∀ c ∈ part, isBlank c = false ∧ c ≠ '|' := by
  obtain ⟨rhs, hrhs, rfl⟩ := List.mem_map.1 hpart
  obtain ⟨cs, htext, -, hne, hcs⟩ := (h.letters rhs hrhs).exists_text
  exact htext ▸ ⟨hne, hcs⟩

/-- the text of a rule is parted after the name -/
theorem Spelled.splitRule_ruleText : splitRule (ruleText r).toList = some (r.name.toList, restText r) := by
  rw [toList_ruleText, splitRule_name_iff h.name_ne h.name_solid (List.forall_mem_singleton.2 (by decide))]
  exact .inl (List.cons_ne_nil _ _)

theorem Spelled.readAlternatives_restText :
    readAlternatives (restText r) = r.alternatives.map respelledAlternative := by
  rw [restText, readAlternatives_intercalate h.alternativeTexts_ne_nil fun part hpart => (h.of_mem_alternativeTexts hpart).2,
    alternativeTexts, List.map_map]
  exact List.map_congr_left fun rhs hrhs => (h.letters rhs hrhs).splitSymbols_alternativeText

theorem Spelled.solid_ruleText : Solid (ruleText r).toList := by
  have hrest : Solid (" | ".toList.intercalate (alternativeTexts r)) :=
    solid_intercalate h.alternativeTexts_ne_nil fun part hpart =>
      solid_of_all (h.of_mem_alternativeTexts hpart).1 fun c hc => ((h.of_mem_alternativeTexts hpart).2 c hc).1
  have hsolid := (solid_of_all h.name_ne h.name_solid).append (l := " -> ".toList) hrest
  rw [toList_ruleText, restText]
  simpa using hsolid

theorem Spelled.not_isLineEnd : ∀ c ∈ (ruleText r).toList, isLineEnd c = false := by
  have hrest : ∀ c ∈ restText r, isLineEnd c = false :=
    List.forall_mem_cons.2 ⟨by decide, forall_mem_intercalate (by simp [isLineEnd]) fun part hpart c hc =>
      not_isLineEnd_of_not_isBlank ((h.of_mem_alternativeTexts hpart).2 c hc).1⟩
  rw [toList_ruleText]
  simp only [List.mem_append, List.mem_cons, List.not_mem_nil, or_false]
  rintro c (hc | rfl | rfl | rfl | hc)
  · exact not_isLineEnd_of_not_isBlank (h.name_solid c hc)
  · decide
  · decide
  · decide
  · exact hrest c hc

end

/-! ## Reading back -/

theorem names_respelled (g : Grammar) : g.respelled.names = g.names := by
  rw [respelled, names, names, List.map_map]
  rfl

theorem WellFormed.respelled {g : Grammar} (wf : g.WellFormed) : g.respelled.WellFormed where
  nodup := names_respelled g ▸ wf.nodup
  unreserved := names_respelled g ▸ wf.unreserved
  filled := by
    rw [Grammar.respelled, List.forall_mem_map]
    exact fun r hr => by simpa using wf.filled r hr

/-- the lines of the text are the texts of the rules -/
theorem lines_toText {g : Grammar} (h : ∀ r ∈ g.rules, Spelled r) :
    lines (trim g.toText.toList) = g.rules.map fun r => (ruleText r).toList := by
  have hlines : ∀ l ∈ g.rules.map fun r => (ruleText r).toList, Solid l ∧ ∀ c ∈ l, isLineEnd c = false := by
    rw [List.forall_mem_map]
    exact fun r hr => ⟨(h r hr).solid_ruleText, (h r hr).not_isLineEnd⟩
  have htext : g.toText.toList = ['\n'].intercalate (g.rules.map fun r => (ruleText r).toList) := by
    simp [toText, String.toList_intercalate, Function.comp_def]
  have htrim : trim g.toText.toList = g.toText.toList := by
    cases hrules : g.rules with
    | nil => simp [htext, hrules, trim, trimLeft, trimRight]
    | cons r rules =>
      rw [htext]
      exact trim_of_solid (solid_intercalate (by simp [hrules]) fun l hl => (hlines l hl).1)
  rw [htrim, htext, lines_intercalate fun l hl => ⟨(hlines l hl).1.ne_nil, (hlines l hl).2⟩]

/-- what is written for rules as the reader has them is read as these rules, with the sign for every empty alternative -/
theorem ofString_toText_of_spelled {g : Grammar} (wf : g.WellFormed) (h : ∀ r ∈ g.rules, Spelled r) :
    ofString g.toText = .ok g.respelled := by
  refine ofText_eq_ok_iff.2 ⟨g.rules.map fun r => (r.name.toList, restText r), ?_, ?_⟩
  · have hkept : ∀ l ∈ g.rules.map fun r => (ruleText r).toList, (!(trim l).isEmpty) = true := by
      rw [List.forall_mem_map]
      exact fun r hr => by simpa [trim_of_solid (h r hr).solid_ruleText] using (h r hr).solid_ruleText.ne_nil
    rw [lines_toText h, List.filter_eq_self.2 hkept, List.forall₂_map_left_iff, List.forall₂_map_right_iff,
      List.forall₂_same]
    exact fun r hr => (h r hr).splitRule_ruleText
  · have hproductions : (g.rules.map fun r => (r.name.toList, restText r)).flatMap ruleProductions =
        g.respelled.productions := by
      rw [productions, respelled, List.flatMap_map, List.flatMap_map]
      refine List.flatMap_congr fun r hr => ?_
      rw [ruleProductions_of_name (h r hr).name_ne (h r hr).name_solid, (h r hr).readAlternatives_restText,
        String.ofList_toList]
    rw [hproductions]
    exact wf.respelled.ofProductions_productions

theorem alternatives?_respelled (g : Grammar) (s : Symbol) :
    g.respelled.alternatives? s = (g.alternatives? s).map (List.map respelledAlternative) := by
  rw [alternatives?, alternatives?, respelled, List.find?_map, Option.map_map, Option.map_map]
  rfl

theorem respelledAlternative_eq_self_iff {rhs : List Symbol} : respelledAlternative rhs = rhs ↔ [] ≠ rhs := by
  rw [respelledAlternative]
  split_ifs with hempty
  · simp [hempty]
  · exact iff_of_true rfl fun hnil => hempty hnil.symm

theorem map_eq_self_iff {α : Type} {f : α → α} {l : List α} : l.map f = l ↔ ∀ a ∈ l, f a = a := by
  simpa using List.map_inj_left (f := f) (g := id) (l := l)

theorem respelled_eq_self_iff {g : Grammar} : g.respelled = g ↔ ∀ r ∈ g.rules, [] ∉ r.alternatives := by
  have hrule : ∀ r : Rule, (⟨r.name, r.alternatives.map respelledAlternative⟩ : Rule) = r ↔ [] ∉ r.alternatives := by
    rintro ⟨name, alternatives⟩
    simp only [Rule.mk.injEq, true_and, map_eq_self_iff, respelledAlternative_eq_self_iff]
    exact ⟨fun h hnil => h [] hnil rfl, fun h rhs hrhs hnil => h (hnil ▸ hrhs)⟩
  cases g with
  | mk rules => simp only [respelled, Grammar.mk.injEq, map_eq_self_iff, hrule]

/-- **A grammar that was read is read back from its text,** with the same names in the same order and the same
alternatives in the same order, except that an empty alternative comes back as the sign that was written for it. -/
theorem ofString_toText {text : String} {g : Grammar} (h : ofString text = .ok g) :
    ofString g.toText = .ok g.respelled ∧ g.respelled.names = g.names ∧ g.respelled.start = g.start ∧
      (∀ s, g.respelled.alternatives? s = (g.alternatives? s).map (List.map respelledAlternative)) ∧
      (ofString g.toText = .ok g ↔ ∀ r ∈ g.rules, [] ∉ r.alternatives) := by
  have hread : ofString g.toText = .ok g.respelled :=
    ofString_toText_of_spelled (wellFormed_of_ofText h) fun r hr => spelled_of_ofText h hr
  have hstart : g.respelled.start = g.start := by rw [start, start, start?, start?, names_respelled]
  refine ⟨hread, names_respelled g, hstart, alternatives?_respelled g, ?_⟩
  rw [hread, Except.ok.injEq]
  exact respelled_eq_self_iff

/-- arrows in a name, in the alternatives and in both, rules of one name apart, and an empty alternative -/
theorem ofString_toText_arrows :
    ofString "\n S->a -> ->|\n\u2028 T ->\t>- -\r\nS->a-> b c |ε" =
      .ok ⟨[⟨"S->a", [["-", ">"], [], ["b", "c"], ["ε"]]⟩, ⟨"T", [[">", "-", "-"]]⟩]⟩ ∧
    ofString "S->a -> -> | ε | bc | ε\nT -> >--" =
      .ok ⟨[⟨"S->a", [["-", ">"], ["ε"], ["b", "c"], ["ε"]]⟩, ⟨"T", [[">", "-", "-"]]⟩]⟩ := by
  have h : ofString "\n S->a -> ->|\n\u2028 T ->\t>- -\r\nS->a-> b c |ε" =
      .ok ⟨[⟨"S->a", [["-", ">"], [], ["b", "c"], ["ε"]]⟩, ⟨"T", [[">", "-", "-"]]⟩]⟩ := by decide
  exact ⟨h, (ofString_toText h).1⟩

end Grammar

end GrammarLab
