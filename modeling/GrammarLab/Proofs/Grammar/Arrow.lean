/-
Which arrow parts a line into a name and its alternatives.

`Parts line name rest` says that the line can be taken apart as blanks, a name without blanks, blanks, an arrow and the
rest. A line with several arrows can be taken apart in several ways.
- `splitRule_eq_some_iff`: of all these ways the reader takes the one with the longest name, and it refuses a line only if
  there is none (`splitRule_eq_none_iff`);
- `splitRule_name_iff`: so a blank before the arrow settles what the name is, and without one a second arrow in the next
  word or right after it takes the place of the first.
-/
import GrammarLab.Grammar.Reader
import GrammarLab.Proofs.Text.Blank

namespace GrammarLab

open Text

variable {line name rest cs a b : List Char}

/-- the line can be taken apart as blanks, a name, blanks, an arrow and the rest -/
inductive Parts : List Char → List Char → List Char → Prop where
  | intro {before name between rest : List Char} (before_blank : ∀ c ∈ before, isBlank c = true) (name_ne : name ≠ [])
    (name_solid : ∀ c ∈ name, isBlank c = false) (between_blank : ∀ c ∈ between, isBlank c = true) :
    Parts (before ++ (name ++ (between ++ '-' :: '>' :: rest))) name rest

/-! ## Runs of blanks and of other characters -/

theorem not_isBlank_of_mem_head? (ha : a ≠ []) (h : ∀ c ∈ a, isBlank c = false) :
    ∀ c ∈ (a ++ b).head?, isBlank c = false := by
  obtain ⟨c, rest, rfl⟩ := List.exists_cons_of_ne_nil ha
  simpa using h c List.mem_cons_self

theorem dropWhile_isBlank_eq_self (hb : ∀ c ∈ b.head?, isBlank c = false) : b.dropWhile isBlank = b := by
  cases b with
  | nil => rfl
  | cons c b => exact List.dropWhile_cons_of_neg (by simp [hb c rfl])

theorem dropWhile_isBlank_append (h : ∀ c ∈ a, isBlank c = true) (hb : ∀ c ∈ b.head?, isBlank c = false) :
    (a ++ b).dropWhile isBlank = b := by
  rw [List.dropWhile_append_of_pos h, dropWhile_isBlank_eq_self hb]

theorem takeWhile_not_isBlank_append (h : ∀ c ∈ a, isBlank c = false) (hb : ∀ c ∈ b.head?, isBlank c = true) :
    (a ++ b).takeWhile (fun c => !isBlank c) = a := by
  rw [List.takeWhile_append_of_pos (by simpa using h)]
  cases b with
  | nil => simp
  | cons c b => rw [List.takeWhile_cons_of_neg (by simp [hb c rfl]), List.append_nil]

theorem dropWhile_not_isBlank_append (h : ∀ c ∈ a, isBlank c = false) (hb : ∀ c ∈ b.head?, isBlank c = true) :
    (a ++ b).dropWhile (fun c => !isBlank c) = b := by
  rw [List.dropWhile_append_of_pos (by simpa using h)]
  cases b with
  | nil => rfl
  | cons c b => exact List.dropWhile_cons_of_neg (by simp [hb c rfl])

theorem isBlank_of_mem_takeWhile {c : Char} (h : c ∈ cs.takeWhile isBlank) : isBlank c = true := List.mem_takeWhile_imp h

theorem not_isBlank_of_mem_takeWhile {c : Char} (h : c ∈ cs.takeWhile fun c => !isBlank c) : isBlank c = false := by
  simpa using List.mem_takeWhile_imp h

theorem isBlank_of_mem_head?_dropWhile {c : Char} (h : c ∈ (cs.dropWhile fun c => !isBlank c).head?) :
    isBlank c = true := by
  have hhead := List.head?_dropWhile_not (fun c => !isBlank c) cs
  rw [h] at hhead
  simpa using hhead

/-! ## Inside a word -/

theorem lastArrow_sound (h : lastArrow cs = some (a, b)) : a ≠ [] ∧ cs = a ++ '-' :: '>' :: b := by
  fun_induction lastArrow cs generalizing a b with
  | case1 => simp at h
  | case2 c cs name rest hlast ih =>
    cases h
    exact ⟨List.cons_ne_nil _ _, by rw [List.cons_append, ← (ih hlast).2]⟩
  | case3 c rest hlast =>
    cases h
    exact ⟨List.cons_ne_nil _ _, rfl⟩
  | case4 => simp at h

/-- an arrow with something before it is found, or one that comes later -/
theorem exists_lastArrow (ha : a ≠ []) (hcs : cs = a ++ '-' :: '>' :: b) :
    ∃ p, lastArrow cs = some p ∧ a.length ≤ p.1.length := by
  induction cs generalizing a with
  | nil => simp at hcs
  | cons c cs ih =>
    obtain ⟨d, a, rfl⟩ := List.exists_cons_of_ne_nil ha
    rw [List.cons_append, List.cons.injEq] at hcs
    obtain ⟨rfl, hcs⟩ := hcs
    cases hlast : lastArrow cs with
    | some p =>
      refine ⟨(c :: p.1, p.2), by simp [lastArrow, hlast], ?_⟩
      by_cases hne : a = []
      · simp [hne]
      · obtain ⟨q, hq, hle⟩ := ih hne hcs
        obtain rfl : p = q := Option.some.inj (hlast.symm.trans hq)
        exact Nat.succ_le_succ hle
    | none =>
      -- nothing was found behind `c`, so the arrow stands right after it
      have hne : a = [] := by
        by_contra hne
        obtain ⟨q, hq, -⟩ := ih hne hcs
        exact absurd (hlast.symm.trans hq) (by simp)
      subst hne
      rw [List.nil_append] at hcs
      subst hcs
      exact ⟨([c], b), by rw [lastArrow.eq_def]; simp only [hlast], Nat.le_refl _⟩

/-! ## On a line -/

/-- the reader in terms of the first word and of what follows it: an arrow after the word is the one that parts, and
without one it is the last arrow in the word -/
theorem splitRule_append {before word tail : List Char} (hbefore : ∀ c ∈ before, isBlank c = true) (hne : word ≠ [])
    (hword : ∀ c ∈ word, isBlank c = false) (htail : ∀ c ∈ tail.head?, isBlank c = true) :
    (∀ rest, tail.dropWhile isBlank = '-' :: '>' :: rest →
      splitRule (before ++ (word ++ tail)) = some (word, rest)) ∧
    ((∀ rest, tail.dropWhile isBlank ≠ '-' :: '>' :: rest) →
      splitRule (before ++ (word ++ tail)) = (lastArrow word).map fun p => (p.1, p.2 ++ tail)) := by
  rw [splitRule, dropWhile_isBlank_append hbefore (not_isBlank_of_mem_head? hne hword),
    takeWhile_not_isBlank_append hword htail, dropWhile_not_isBlank_append hword htail, if_neg (by simpa using hne)]
  constructor
  · intro rest harrow
    rw [harrow]
    rfl
  · intro harrow
    split
    · exact absurd ‹_› (harrow _)
    · rfl

/-- the margin of a line, its first word and what follows; a line without a word is no rule -/
theorem exists_word (line : List Char) :
    ∃ before word tail, line = before ++ (word ++ tail) ∧ (∀ c ∈ before, isBlank c = true) ∧
      (∀ c ∈ word, isBlank c = false) ∧ (∀ c ∈ tail.head?, isBlank c = true) ∧ (word = [] → splitRule line = none) := by
  refine ⟨line.takeWhile isBlank, (line.dropWhile isBlank).takeWhile (fun c => !isBlank c),
    (line.dropWhile isBlank).dropWhile (fun c => !isBlank c), ?_, fun _ => isBlank_of_mem_takeWhile,
    fun _ => not_isBlank_of_mem_takeWhile, fun _ => isBlank_of_mem_head?_dropWhile, fun hempty => ?_⟩
  · rw [List.takeWhile_append_dropWhile, List.takeWhile_append_dropWhile]
  · rw [splitRule, hempty]
    rfl

/-- what the reader takes is a way to take the line apart -/
theorem parts_of_splitRule (h : splitRule line = some (name, rest)) : Parts line name rest := by
  obtain ⟨before, word, tail, rfl, hbefore, hword, htail, hnone⟩ := exists_word line
  have hne : word ≠ [] := fun hempty => absurd ((hnone hempty).symm.trans h) (by simp)
  obtain ⟨hafter, hinside⟩ := splitRule_append hbefore hne hword htail
  by_cases harrow : ∃ rest, tail.dropWhile isBlank = '-' :: '>' :: rest
  · obtain ⟨rest', harrow⟩ := harrow
    obtain ⟨rfl, rfl⟩ := Prod.mk.inj (Option.some.inj ((hafter rest' harrow).symm.trans h))
    rw [← List.takeWhile_append_dropWhile (p := isBlank) (l := tail), harrow]
    exact .intro hbefore hne hword fun _ => isBlank_of_mem_takeWhile
  · rw [hinside fun rest' => not_exists.1 harrow rest'] at h
    obtain ⟨⟨a, b⟩, hlast, hpair⟩ := Option.map_eq_some_iff.1 h
    obtain ⟨rfl, rfl⟩ := Prod.mk.inj hpair
    obtain ⟨hname, rfl⟩ := lastArrow_sound hlast
    have hline : Parts (before ++ (a ++ ([] ++ '-' :: '>' :: (b ++ tail)))) a (b ++ tail) :=
      .intro hbefore hname (fun c hc => hword c (List.mem_append_left _ hc)) (by simp)
    simpa using hline

/-- a line that can be taken apart is not blank -/
theorem Parts.exists_not_isBlank (h : Parts line name rest) : ∃ c ∈ line, isBlank c = false := by
  cases h with
  | @intro before name between rest hbefore hne hname hbetween =>
    obtain ⟨c, cs, rfl⟩ := List.exists_cons_of_ne_nil hne
    exact ⟨c, by simp, hname c List.mem_cons_self⟩

/-- whenever a line can be taken apart, the reader takes it apart with a name that is at least as long -/
theorem Parts.exists_splitRule (h : Parts line name rest) :
    ∃ p, splitRule line = some p ∧ name.length ≤ p.1.length := by
  cases h with
  | @intro before name between rest hbefore hne hname hbetween =>
    by_cases hempty : between = []
    · -- the arrow stands in the first word, perhaps with another one behind it
      subst hempty
      have hword : ∀ c ∈ name ++ '-' :: '>' :: rest.takeWhile (fun c => !isBlank c), isBlank c = false := by
        intro c hc
        simp only [List.mem_append, List.mem_cons] at hc
        rcases hc with hc | rfl | rfl | hc
        · exact hname c hc
        · decide
        · decide
        · exact not_isBlank_of_mem_takeWhile hc
      have hline : before ++ (name ++ ([] ++ '-' :: '>' :: rest)) =
          before ++ (name ++ '-' :: '>' :: rest.takeWhile (fun c => !isBlank c) ++ rest.dropWhile fun c => !isBlank c) := by
        simp [List.takeWhile_append_dropWhile]
      have htail : ∀ c ∈ (rest.dropWhile fun c => !isBlank c).head?, isBlank c = true := fun _ =>
        isBlank_of_mem_head?_dropWhile
      obtain ⟨hafter, hinside⟩ := splitRule_append hbefore (by simp) hword htail
      rw [hline]
      by_cases harrow : ∃ rhs, (rest.dropWhile fun c => !isBlank c).dropWhile isBlank = '-' :: '>' :: rhs
      · obtain ⟨rhs, harrow⟩ := harrow
        exact ⟨_, hafter rhs harrow, by simp⟩
      · obtain ⟨p, hlast, hle⟩ := exists_lastArrow hne rfl
        exact ⟨_, (hinside (not_exists.1 harrow)).trans (congrArg _ hlast), hle⟩
    · have hhead : ∀ c ∈ (between ++ '-' :: '>' :: rest).head?, isBlank c = true := by
        obtain ⟨c, cs, rfl⟩ := List.exists_cons_of_ne_nil hempty
        simpa using hbetween c List.mem_cons_self
      have harrow : (between ++ '-' :: '>' :: rest).dropWhile isBlank = '-' :: '>' :: rest :=
        dropWhile_isBlank_append hbetween (by simp; decide)
      exact ⟨_, (splitRule_append hbefore hne hname hhead).1 rest harrow, Nat.le_refl _⟩

/-- a way to take a line apart, told from the first character that is no blank -/
theorem Parts.body (h : Parts line name rest) :
    name ≠ [] ∧ (∀ c ∈ name, isBlank c = false) ∧
      ∃ tail, line.dropWhile isBlank = name ++ tail ∧ tail.dropWhile isBlank = '-' :: '>' :: rest := by
  cases h with
  | @intro before name between rest hbefore hne hname hbetween =>
    exact ⟨hne, hname, between ++ '-' :: '>' :: rest,
      dropWhile_isBlank_append hbefore (not_isBlank_of_mem_head? hne hname),
      dropWhile_isBlank_append hbetween (by simp; decide)⟩

/-- a line can be taken apart in one way at most with a name of a given length -/
theorem Parts.unique {name' rest' : List Char} (h : Parts line name rest) (h' : Parts line name' rest')
    (hlength : name.length = name'.length) : name = name' ∧ rest = rest' := by
  obtain ⟨-, -, tail, hbody, harrow⟩ := h.body
  obtain ⟨-, -, tail', hbody', harrow'⟩ := h'.body
  obtain ⟨hname, rfl⟩ := List.append_inj (hbody.symm.trans hbody') hlength
  refine ⟨hname, ?_⟩
  simpa using harrow.symm.trans harrow'

/-- **The reader takes the longest name.** -/
theorem splitRule_eq_some_iff : splitRule line = some (name, rest) ↔
    Parts line name rest ∧ ∀ name' rest', Parts line name' rest' → name'.length ≤ name.length := by
  constructor
  · intro h
    refine ⟨parts_of_splitRule h, fun name' rest' h' => ?_⟩
    obtain ⟨p, hp, hle⟩ := h'.exists_splitRule
    rwa [Option.some.inj (hp.symm.trans h)] at hle
  · rintro ⟨h, hmax⟩
    obtain ⟨⟨name', rest'⟩, hp, hle⟩ := h.exists_splitRule
    have h' : Parts line name' rest' := parts_of_splitRule hp
    obtain ⟨rfl, rfl⟩ := h.unique h' (Nat.le_antisymm hle (hmax name' rest' h'))
    exact hp

theorem splitRule_eq_none_iff : splitRule line = none ↔ ∀ name rest, ¬ Parts line name rest := by
  rw [Option.eq_none_iff_forall_ne_some]
  constructor
  · intro hnone name rest h
    obtain ⟨p, hp, -⟩ := h.exists_splitRule
    exact hnone p hp
  · rintro hnone ⟨name, rest⟩ hp
    exact hnone name rest (parts_of_splitRule hp)

/-! ## A name followed by blanks and an arrow -/

/-- another arrow follows, with no more than a word and blanks before it -/
def Reopens (text : List Char) : Prop :=
  ∃ word between rest, text = word ++ (between ++ '-' :: '>' :: rest) ∧ (∀ c ∈ word, isBlank c = false) ∧
    ∀ c ∈ between, isBlank c = true

/-- blanks at the end change nothing -/
theorem reopens_trimRight {text : List Char} : Reopens (trimRight text) ↔ Reopens text := by
  constructor
  · rintro ⟨word, between, rest, htext, hword, hbetween⟩
    obtain ⟨bs, hbs, -⟩ := exists_trimRight text
    exact ⟨word, between, rest ++ bs, by rw [hbs, htext]; simp, hword, hbetween⟩
  · rintro ⟨word, between, rest, rfl, hword, hbetween⟩
    refine ⟨word, between, trimRight rest, ?_, hword, hbetween⟩
    have hdash : isBlank '-' = false := by decide
    have hhead : isBlank '>' = false := by decide
    have hsplit : word ++ (between ++ '-' :: '>' :: rest) = (word ++ between ++ ['-']) ++ '>' :: rest := by simp
    rw [hsplit, trimRight_append_cons hhead]
    simp

variable {u t : List Char}

/-- the other arrow parts off a longer name, which takes the first arrow in -/
theorem Reopens.exists_longer (hname : ∀ c ∈ name, isBlank c = false) (h : Reopens t) :
    ∃ name' rest', Parts (name ++ '-' :: '>' :: t) name' rest' ∧ name.length < name'.length := by
  obtain ⟨word, between, rest, rfl, hword, hbetween⟩ := h
  have hsolid : ∀ c ∈ name ++ '-' :: '>' :: word, isBlank c = false := by
    simp only [List.mem_append, List.mem_cons]
    rintro c (hc | rfl | rfl | hc)
    · exact hname c hc
    · decide
    · decide
    · exact hword c hc
  have hparts : Parts ([] ++ ((name ++ '-' :: '>' :: word) ++ (between ++ '-' :: '>' :: rest)))
      (name ++ '-' :: '>' :: word) rest := .intro (by simp) (by simp) hsolid hbetween
  exact ⟨_, _, by simpa using hparts, by simp⟩

/-- a longer name goes up to another arrow, and there is no blank for it to stop at before the first one -/
theorem Parts.reopens {name' rest' : List Char} (hne : name ≠ []) (hname : ∀ c ∈ name, isBlank c = false)
    (hu : ∀ c ∈ u, isBlank c = true) (h : Parts (name ++ (u ++ '-' :: '>' :: t)) name' rest')
    (hlonger : name.length < name'.length) : u = [] ∧ Reopens t := by
  obtain ⟨-, hname', tail, hbody, harrow⟩ := h.body
  have hline : (name ++ (u ++ '-' :: '>' :: t)).dropWhile isBlank = name ++ (u ++ '-' :: '>' :: t) :=
    dropWhile_isBlank_eq_self (not_isBlank_of_mem_head? hne hname)
  obtain ⟨d, rfl, hrest⟩ : ∃ d, name' = name ++ d ∧ u ++ '-' :: '>' :: t = d ++ tail := by
    rcases List.append_eq_append_iff.1 (hline.symm.trans hbody) with ⟨d, hd, hrest⟩ | ⟨d, rfl, -⟩
    · exact ⟨d, hd, hrest⟩
    · rw [List.length_append] at hlonger
      omega
  have hd : ∀ c ∈ d, isBlank c = false := fun c hc => hname' c (List.mem_append_right _ hc)
  cases d with
  | nil => simp at hlonger
  | cons c d =>
    cases u with
    | cons b u =>
      obtain rfl : b = c := (List.cons.inj hrest).1
      exact absurd (hu b List.mem_cons_self) (by simp [hd b List.mem_cons_self])
    | nil =>
      obtain ⟨rfl, hnext⟩ := List.cons.inj hrest
      cases d with
      | nil =>
        -- the name would end between the two characters of the arrow
        obtain rfl : '>' :: t = tail := hnext
        rw [List.dropWhile_cons_of_neg (by decide)] at harrow
        simp at harrow
      | cons c d =>
        obtain ⟨rfl, ht⟩ := List.cons.inj hnext
        change t = d ++ tail at ht
        refine ⟨rfl, d, tail.takeWhile isBlank, rest', ?_, fun c hc => hd c (by simp [hc]),
          fun _ => isBlank_of_mem_takeWhile⟩
        rw [← harrow, List.takeWhile_append_dropWhile, ht]

/-- **What stands before the arrow is the name** if a blank comes between, or else if no other arrow takes its place. -/
theorem splitRule_name_iff (hne : name ≠ []) (hname : ∀ c ∈ name, isBlank c = false) (hu : ∀ c ∈ u, isBlank c = true) :
    splitRule (name ++ (u ++ '-' :: '>' :: t)) = some (name, t) ↔ u ≠ [] ∨ ¬ Reopens t := by
  have hparts : Parts ([] ++ (name ++ (u ++ '-' :: '>' :: t))) name t := .intro (by simp) hne hname hu
  rw [splitRule_eq_some_iff, ← not_and_or]
  constructor
  · rintro ⟨-, hmax⟩ ⟨hempty, hreopens⟩
    subst hempty
    obtain ⟨name', rest', h', hlonger⟩ := hreopens.exists_longer hname
    exact absurd (hmax name' rest' h') (Nat.not_le.2 hlonger)
  · intro hnot
    refine ⟨hparts, fun name' rest' h' => ?_⟩
    by_contra hlonger
    exact hnot (h'.reopens hne hname hu (Nat.not_le.1 hlonger))

end GrammarLab
