/-
Texts with one rule on each line.

- `ofText_eq_ok_iff`: a text is read by parting each of its lines that is not blank and adding the productions that the
  parts stand for, and only then is it read;
- `readAlternatives_congr`: blanks among the alternatives do not count;
- `ofString_arrow`: a name, an arrow and alternatives on one line are read as this one rule, whatever blanks stand between
  them, unless the arrow follows the name at once and another arrow takes its place (`Reopens`).
-/
import GrammarLab.Proofs.Grammar.Arrow
import GrammarLab.Proofs.Grammar.Built

namespace GrammarLab

open Text

variable {line name rest cs ds : List Char}

/-! ## Alternatives -/

theorem splitSymbols_filter (cs : List Char) : splitSymbols (cs.filter fun c => !isBlank c) = splitSymbols cs := by
  rw [splitSymbols, splitSymbols, List.filter_filter]
  simp

theorem readAlternatives_filter (cs : List Char) :
    readAlternatives (cs.filter fun c => !isBlank c) = readAlternatives cs := by
  rw [readAlternatives, readAlternatives, splitAt_filter (by decide), List.map_map]
  exact List.map_congr_left fun part _ => splitSymbols_filter part

/-- **Blanks among the alternatives do not count.** -/
theorem readAlternatives_congr (h : (cs.filter fun c => !isBlank c) = ds.filter fun c => !isBlank c) :
    readAlternatives cs = readAlternatives ds := by
  rw [← readAlternatives_filter cs, h, readAlternatives_filter]

theorem readAlternatives_ne_nil (cs : List Char) : readAlternatives cs ≠ [] := by
  rw [readAlternatives, splitAt_eq_splitOn]
  exact fun h => List.splitOn_ne_nil _ _ (List.map_eq_nil_iff.1 h)

namespace Grammar

/-! ## Lines -/

theorem readLine_eq_ok_iff {rule : List Char × List Char} : readLine line = .ok rule ↔ splitRule line = some rule := by
  rw [readLine]
  cases splitRule line <;> simp

/-- the productions that a name and a text of alternatives stand for -/
def ruleProductions (rule : List Char × List Char) : List (Symbol × List Symbol) :=
  match trim rule.1 with
  | [] => []
  | name => (readAlternatives rule.2).map fun rhs => (String.ofList name, rhs)

theorem ofRules_eq (rules : List (List Char × List Char)) : ofRules rules = ofProductions (rules.flatMap ruleProductions) :=
  rfl

theorem ruleProductions_of_name (hne : name ≠ []) (hname : ∀ c ∈ name, isBlank c = false) (rest : List Char) :
    ruleProductions (name, rest) = (readAlternatives rest).map fun rhs => (String.ofList name, rhs) := by
  rw [ruleProductions, trim_of_solid (solid_of_all hne hname)]
  cases name with
  | nil => exact absurd rfl hne
  | cons => rfl

theorem mapM_eq_ok_iff {α β ε : Type} {f : α → Except ε β} {l : List α} {k : List β} :
    l.mapM f = .ok k ↔ List.Forall₂ (fun a b => f a = .ok b) l k := by
  induction l generalizing k with
  | nil => simp [pure, Except.pure, eq_comm]
  | cons a l ih =>
    rw [List.mapM_cons]
    cases hfirst : f a with
    | error e => simp [bind, Except.bind, List.forall₂_cons_left_iff, hfirst]
    | ok b =>
      cases hmore : l.mapM f with
      | error e =>
        have hnone : ∀ k, ¬List.Forall₂ (fun a b => f a = .ok b) l k := fun k hk => by
          rw [← ih, hmore] at hk
          cases hk
        simp [bind, Except.bind, List.forall₂_cons_left_iff, hnone]
      | ok more =>
        simp only [bind, Except.bind, pure, Except.pure, Except.ok.injEq, List.forall₂_cons_left_iff, hfirst, ← ih, hmore]
        constructor
        · rintro rfl
          exact ⟨b, more, rfl, rfl, rfl⟩
        · rintro ⟨_, _, rfl, rfl, rfl⟩
          rfl

/-- **A text is read line by line.** -/
theorem ofText_eq_ok_iff {g : Grammar} : ofText cs = .ok g ↔
    ∃ rules, List.Forall₂ (fun line rule => splitRule line = some rule)
        ((lines (trim cs)).filter fun line => !(trim line).isEmpty) rules ∧
      ofProductions (rules.flatMap ruleProductions) = .ok g := by
  have hlines : ∀ (ls : List (List Char)) rules, ls.mapM readLine = .ok rules ↔
      List.Forall₂ (fun line rule => splitRule line = some rule) ls rules := fun ls rules => by
    simp only [mapM_eq_ok_iff, readLine_eq_ok_iff]
  simp only [ofText, ← hlines]
  cases List.mapM readLine ((lines (trim cs)).filter fun line => !(trim line).isEmpty) with
  | error e => simp [bind, Except.bind]
  | ok rules => simp [bind, Except.bind, ofRules_eq]

/-- a text on one line is read as the productions of this line -/
theorem ofText_of_line {g : Grammar} (hends : ∀ c ∈ trim cs, isLineEnd c = false)
    (hrule : splitRule (trim cs) = some (name, rest)) :
    ofText cs = .ok g ↔ ofProductions (ruleProductions (name, rest)) = .ok g := by
  have hword : ∃ c ∈ trim cs, isBlank c = false := (parts_of_splitRule hrule).exists_not_isBlank
  have hlines : ((lines (trim cs)).filter fun line => !(trim line).isEmpty) = [trim cs] := by
    rw [lines_singleton hends fun hempty => by simp [hempty] at hword]
    exact List.filter_eq_self.2 (by simpa using trim_ne_nil hword)
  rw [ofText_eq_ok_iff, hlines]
  simp [List.forall₂_cons_left_iff, hrule]

theorem ofProductions_ruleProductions (hne : name ≠ []) (hname : ∀ c ∈ name, isBlank c = false)
    (htop : String.ofList name ≠ topName) (rest : List Char) :
    ofProductions (ruleProductions (name, rest)) = .ok ⟨[⟨String.ofList name, readAlternatives rest⟩]⟩ := by
  have wf : WellFormed ⟨[⟨String.ofList name, readAlternatives rest⟩]⟩ :=
    ⟨by simp [names], by simpa [names] using fun h => htop h.symm, by simpa using readAlternatives_ne_nil rest⟩
  rw [ruleProductions_of_name hne hname, ← wf.ofProductions_productions]
  simp [productions]

/-- a grammar of one rule that is read from one line has the name on this line -/
theorem name_eq_of_ofProductions_ruleProductions {r : Rule} (hne : name ≠ []) (hname : ∀ c ∈ name, isBlank c = false)
    (h : ofProductions (ruleProductions (name, rest)) = .ok ⟨[r]⟩) : name = r.name.toList := by
  obtain ⟨rhs, more, halternatives⟩ := List.exists_cons_of_ne_nil (readAlternatives_ne_nil rest)
  rw [ruleProductions_of_name hne hname, halternatives] at h
  have hmem : (String.ofList name, rhs) ∈ (Grammar.mk [r]).productions :=
    (mem_productions_of_ofProductions h).2 List.mem_cons_self
  simp only [productions, List.flatMap_cons, List.flatMap_nil, List.append_nil, List.mem_map, Prod.mk.injEq] at hmem
  obtain ⟨_, -, heq, -⟩ := hmem
  rw [heq, String.toList_ofList]

/-! ## Blanks around the arrow -/

theorem trim_arrow {u t : List Char} (hne : name ≠ []) (hname : ∀ c ∈ name, isBlank c = false) :
    trim (name ++ (u ++ '-' :: '>' :: t)) = name ++ (u ++ '-' :: '>' :: trimRight t) := by
  have hhead : isBlank '>' = false := by decide
  have hleft : trimLeft (name ++ (u ++ '-' :: '>' :: t)) = (name ++ u ++ ['-']) ++ '>' :: t := by
    rw [trimLeft, dropWhile_isBlank_eq_self (not_isBlank_of_mem_head? hne hname)]
    simp
  rw [trim, hleft, trimRight_append_cons hhead]
  simp

/-- the blanks around the alternatives are not part of them -/
theorem readAlternatives_trimRight {v : List Char} (hv : ∀ c ∈ v, isBlank c = true) (cs : List Char) :
    readAlternatives (trimRight (v ++ cs)) = readAlternatives cs := by
  have hnone : (v.filter fun c => !isBlank c) = [] := List.filter_eq_nil_iff.2 fun c hc => by simp [hv c hc]
  exact readAlternatives_congr (by rw [filter_trimRight, List.filter_append, hnone, List.nil_append])

/-- **Blanks before the arrow settle which arrow it is; no others count.** A name, blanks `u`, an arrow, blanks `v` and
alternatives are read as the rule of this name with these alternatives if and only if `u` is not empty or no other arrow
follows with at most a word and blanks before it. -/
theorem ofString_arrow {X u v R : String} (hne : X ≠ "") (hname : ∀ c ∈ X.toList, isBlank c = false) (htop : X ≠ topName)
    (hu : ∀ c ∈ u.toList, isBlank c = true ∧ isLineEnd c = false)
    (hv : ∀ c ∈ v.toList, isBlank c = true ∧ isLineEnd c = false) (hR : ∀ c ∈ R.toList, isLineEnd c = false) :
    ofString (X ++ u ++ "->" ++ v ++ R) = .ok ⟨[⟨X, readAlternatives R.toList⟩]⟩ ↔
      u ≠ "" ∨ ¬Reopens (v ++ R).toList := by
  have hX : X.toList ≠ [] := by simpa using hne
  have htext : trim (X ++ u ++ "->" ++ v ++ R).toList =
      X.toList ++ (u.toList ++ '-' :: '>' :: trimRight (v.toList ++ R.toList)) := by
    rw [← trim_arrow hX hname]
    simp
  have hends : ∀ c ∈ trim (X ++ u ++ "->" ++ v ++ R).toList, isLineEnd c = false := fun c hc => by
    have hmem := mem_of_mem_trim hc
    simp only [String.toList_append, List.mem_append] at hmem
    rcases hmem with (((hc | hc) | hc) | hc) | hc
    · exact not_isLineEnd_of_not_isBlank (hname c hc)
    · exact (hu c hc).2
    · rcases List.mem_pair.1 hc with rfl | rfl <;> decide
    · exact (hv c hc).2
    · exact hR c hc
  have hsplit : splitRule (trim (X ++ u ++ "->" ++ v ++ R).toList) =
      some (X.toList, trimRight (v.toList ++ R.toList)) ↔ u ≠ "" ∨ ¬Reopens (v ++ R).toList := by
    rw [htext, splitRule_name_iff hX hname fun c hc => (hu c hc).1, reopens_trimRight, String.toList_append]
    simp
  have hread := readAlternatives_trimRight (fun c hc => (hv c hc).1) R.toList
  rw [← hsplit, ofString]
  constructor
  · intro hok
    have hparts : Parts (trim (X ++ u ++ "->" ++ v ++ R).toList) X.toList (trimRight (v.toList ++ R.toList)) := by
      rw [htext]
      exact @Parts.intro [] _ _ _ (by simp) hX hname fun c hc => (hu c hc).1
    obtain ⟨⟨name, rest⟩, hrule, -⟩ := hparts.exists_splitRule
    have hother := parts_of_splitRule hrule
    obtain ⟨hne', hname', -⟩ := hother.body
    -- whatever the reader took for the name, the grammar it gave knows no name but `X`
    obtain rfl : name = X.toList :=
      name_eq_of_ofProductions_ruleProductions hne' hname' ((ofText_of_line hends hrule).1 hok)
    rw [hrule, (hother.unique hparts rfl).2]
  · intro hrule
    have hok := ofProductions_ruleProductions hX hname (by simpa using htop) (trimRight (v.toList ++ R.toList))
    rw [hread, String.ofList_toList] at hok
    exact (ofText_of_line hends hrule).2 hok

/-- with a blank before the first arrow, the second one is two symbols of an alternative -/
theorem ofString_arrow_apart :
    "S" ≠ "" ∧ (∀ c ∈ "S".toList, isBlank c = false) ∧ "S" ≠ topName ∧
    (∀ c ∈ " ".toList, isBlank c = true ∧ isLineEnd c = false) ∧
    (∀ c ∈ "\t".toList, isBlank c = true ∧ isLineEnd c = false) ∧ (∀ c ∈ "a->b|- >".toList, isLineEnd c = false) ∧
    ofString ("S" ++ " " ++ "->" ++ "\t" ++ "a->b|- >") =
      .ok ⟨[⟨"S", [["a", "-", ">", "b"], ["-", ">"]]⟩]⟩ := by
  have hne : "S" ≠ "" := by decide
  have hname : ∀ c ∈ "S".toList, isBlank c = false := by simp [isBlank]
  have htop : "S" ≠ topName := by decide
  have hu : ∀ c ∈ " ".toList, isBlank c = true ∧ isLineEnd c = false := by simp [isBlank, isLineEnd]
  have hv : ∀ c ∈ "\t".toList, isBlank c = true ∧ isLineEnd c = false := by simp [isBlank, isLineEnd]
  have hR : ∀ c ∈ "a->b|- >".toList, isLineEnd c = false := by simp [isLineEnd]
  have hread : readAlternatives "a->b|- >".toList = [["a", "-", ">", "b"], ["-", ">"]] := by decide
  refine ⟨hne, hname, htop, hu, hv, hR, ?_⟩
  rw [← hread]
  exact (ofString_arrow hne hname htop hu hv hR).2 (.inl (by decide))

/-- without it, what stands between the two arrows goes to the name -/
theorem ofString_arrow_joined :
    ofString ("S" ++ "" ++ "->" ++ "" ++ "a->b") = .ok ⟨[⟨"S->a", [["b"]]⟩]⟩ ∧
    ofString ("S" ++ "" ++ "->" ++ "" ++ "a->b") ≠ .ok ⟨[⟨"S", readAlternatives "a->b".toList⟩]⟩ := by
  decide

end Grammar

end GrammarLab
