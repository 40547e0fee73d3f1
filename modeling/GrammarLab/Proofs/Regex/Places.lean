/-
A complaint about an expression points at the first character that no expression has there.

Which characters may come next depends on little of what has been read: how many groups are open, and whether a factor has
just ended, so that a star may follow (`Place`). `Place.next` is one character, `Place.after` a whole text, and `Leads` ties
them to a scanner.
- `readExpr_locates` and its siblings: a reader goes on as long as the places do, or stops at a character that is left to
  the reader around it; if it complains, the places end there with a group open;
- `read_locates`: so a text is read if the places lead through all of it and no group is left open, and otherwise the
  complaint is at the first character that they do not lead through, or at the end;
- `read_isOk_iff`: the texts that are read, without the readers;
- `complaint_at_first_offence`: what stands before the complaint begins an expression, with the character there it does not.
-/
import GrammarLab.Proofs.Regex.Forms

namespace GrammarLab.Regex

open Text

/-! ## Places -/

/-- a place in a text: the number of groups that are open, and whether a factor ends there -/
structure Place where
  depth : Nat
  starred : Bool
deriving DecidableEq, Repr

namespace Place

/-- the beginning of a text, of a group or of a side of a bar -/
def fresh (depth : Nat) : Place := ⟨depth, false⟩

/-- the end of a factor -/
def ended (depth : Nat) : Place := ⟨depth, true⟩

/-- the place after a character, if it can stand there -/
def next (p : Place) (c : Char) : Option Place :=
  if c = '(' then some (fresh (p.depth + 1))
  else if c = ')' then if 0 < p.depth then some (ended (p.depth - 1)) else none
  else if c = '|' then some (fresh p.depth)
  else if c = '*' then if p.starred then some (ended p.depth) else none
  else if isAlphanumeric c ∨ c = 'ε' then some (ended p.depth)
  else none

/-- the place after a text, if each of its characters can stand where it does -/
def after (p : Place) (cs : List Char) : Option Place := cs.foldlM next p

variable {p q : Place} {c : Char} {n : Nat}

@[simp] theorem next_open (p : Place) : p.next '(' = some (fresh (p.depth + 1)) := rfl

@[simp] theorem next_bar (p : Place) : p.next '|' = some (fresh p.depth) := rfl

theorem next_close (h : p.depth = n + 1) : p.next ')' = some (ended n) := by
  simp [next, h]

theorem next_close_zero (h : p.depth = 0) : p.next ')' = none := by
  simp [next, h]

theorem next_star (h : p.starred = true) : p.next '*' = some (ended p.depth) := by
  simp [next, h]

theorem next_star_fresh (depth : Nat) : (fresh depth).next '*' = none := rfl

/-- a letter, a digit or the sign of the empty text -/
theorem next_sign (p : Place) (h : isAlphanumeric c = true ∨ c = 'ε') : p.next c = some (ended p.depth) := by
  have hne : ∀ d, isAlphanumeric d = false → d ≠ 'ε' → c ≠ d := by
    rintro d hd hε rfl
    rcases h with h | h
    · rw [hd] at h; cases h
    · exact hε h
  unfold next
  rw [if_neg (hne _ (by decide) (by decide)), if_neg (hne _ (by decide) (by decide)), if_neg (hne _ (by decide) (by decide)),
    if_neg (hne _ (by decide) (by decide)), if_pos h]

/-- what is no sign of an expression can stand nowhere -/
theorem next_other (p : Place) (hfactor : beginsFactor c = false) (hclose : c ≠ ')') (hbar : c ≠ '|') (hstar : c ≠ '*') :
    p.next c = none := by
  have hnot : ¬ (c = '(' ∨ isAlphanumeric c = true ∨ c = 'ε') := by
    rw [← beginsFactor_iff, hfactor]
    exact Bool.false_ne_true
  rw [not_or] at hnot
  unfold next
  rw [if_neg hnot.1, if_neg hclose, if_neg hbar, if_neg hstar, if_neg hnot.2]

theorem after_append (p : Place) (cs ds : List Char) : p.after (cs ++ ds) = p.after cs >>= fun q => q.after ds :=
  List.foldlM_append

theorem after_cons (p : Place) (c : Char) (cs : List Char) : p.after (c :: cs) = p.next c >>= fun q => q.after cs :=
  List.foldlM_cons

/-- nothing comes after a character that cannot stand where it does -/
theorem after_eq_none {cs : List Char} (hafter : p.after cs = some q) (hc : q.next c = none) (ds : List Char) :
    p.after (cs ++ c :: ds) = none := by
  rw [after_append, hafter]
  show q.after (c :: ds) = none
  rw [after_cons, hc]
  rfl

/-- closing parentheses for all groups that are open -/
theorem after_closings (p : Place) : ∃ q, p.after (List.replicate p.depth ')') = some q ∧ q.depth = 0 := by
  generalize hdepth : p.depth = n
  induction n generalizing p with
  | zero => exact ⟨p, rfl, hdepth⟩
  | succ n ih =>
    obtain ⟨q, hafter, hq⟩ := ih (ended n) rfl
    exact ⟨q, by rw [List.replicate_succ, after_cons, next_close hdepth]; exact hafter, hq⟩

end Place

/-! ## From place to place -/

variable {p q r : Place} {s m s' : Scanner} {c : Char} {cs : List Char} {e : Regex} {form : Form}

/-- the characters between two places in a text can stand where they do -/
def Leads (p : Place) (s : Scanner) (q : Place) (s' : Scanner) : Prop := ∃ cs, s.Passes cs s' ∧ p.after cs = some q

theorem Leads.refl (p : Place) (s : Scanner) : Leads p s p s := ⟨[], .refl s, rfl⟩

theorem Leads.trans (h : Leads p s q m) (h' : Leads q m r s') : Leads p s r s' := by
  obtain ⟨cs, hpass, hafter⟩ := h
  obtain ⟨ds, hpass', hafter'⟩ := h'
  exact ⟨cs ++ ds, hpass.trans hpass', by rw [Place.after_append, hafter]; exact hafter'⟩

theorem leads_advance (h : s.rest.head? = some c) (hnext : p.next c = some q) : Leads p s q s.advance := by
  obtain ⟨rest, hrest⟩ := List.head?_eq_some_iff.1 h
  exact ⟨[c], Scanner.passes_advance hrest, by rw [Place.after_cons, hnext]; rfl⟩

theorem Leads.length_le (h : Leads p s q s') : s'.rest.length ≤ s.rest.length := by
  obtain ⟨cs, hpass, -⟩ := h
  rw [hpass.length]
  exact Nat.le_add_left _ _

/-- what comes next cannot stand there at all, or does not belong to the form and is left to the reader around it -/
def Ends (form : Form) (p : Place) (s : Scanner) : Prop :=
  ∀ c, s.rest.head? = some c → p.next c = none ∨
    match form with
    | .factor => c ≠ '*'
    | .term => c = '|' ∨ c = ')'
    | .expr => c = ')'

theorem ends_fresh (depth : Nat) (s : Scanner) : Ends .factor (.fresh depth) s := by
  intro c _
  by_cases hstar : c = '*'
  · subst hstar
    exact Or.inl (Place.next_star_fresh depth)
  · exact Or.inr hstar

/-- what stands after a factor and begins none ends the term -/
theorem Ends.term (h : Ends .factor p s) (hbegins : s.rest.head?.any beginsFactor = false) : Ends .term p s := by
  intro c hc
  rw [hc] at hbegins
  have hfactor : beginsFactor c = false := hbegins
  rcases h c hc with hnone | hstar
  · exact Or.inl hnone
  · by_cases hclose : c = ')'
    · exact Or.inr (Or.inr hclose)
    by_cases hbar : c = '|'
    · exact Or.inr (Or.inl hbar)
    exact Or.inl (Place.next_other p hfactor hclose hbar hstar)

/-- what stands after a term and is no bar ends the expression -/
theorem Ends.expr (h : Ends .term p s) (hbar : s.rest.head? ≠ some '|') : Ends .expr p s := by
  intro c hc
  rcases h c hc with hnone | rfl | hclose
  · exact Or.inl hnone
  · exact absurd hc hbar
  · exact Or.inr hclose

/-- what a reader of the form gives from a place on: it has come to where the form ends, with as many groups open as before,
or it complains that a group of its own is not closed, at the end or before a character that cannot stand there at all -/
def Locates (form : Form) (p : Place) (s : Scanner) : Except Complaint (Regex × Scanner) → Prop
  | .ok (_, s') => ∃ q, Leads p s q s' ∧ q.depth = p.depth ∧ Ends form q s'
  | .error c => ∃ q s', Leads p s q s' ∧ p.depth < q.depth ∧ (∀ a, s'.rest.head? = some a → q.next a = none) ∧
      c = s'.complain (.mismatch s'.rest.head? ")")

theorem Locates.trans {o : Except Complaint (Regex × Scanner)} (hleads : Leads p s q m) (hdepth : q.depth = p.depth)
    (h : Locates form q m o) : Locates form p s o := by
  cases o with
  | ok result =>
    obtain ⟨r, hrest, hr, hends⟩ := h
    exact ⟨r, hleads.trans hrest, hr.trans hdepth, hends⟩
  | error complaint =>
    obtain ⟨r, s', hrest, hr, hstuck, hcomplaint⟩ := h
    exact ⟨r, s', hleads.trans hrest, hdepth ▸ hr, hstuck, hcomplaint⟩

/-- a reader that goes on after another, which may have been begun in a group of its own -/
theorem Locates.bind {inner : Form} {o : Except Complaint (Regex × Scanner)}
    {k : Regex × Scanner → Except Complaint (Regex × Scanner)} (hleads : Leads p s q m) (hdepth : p.depth ≤ q.depth)
    (h : Locates inner q m o)
    (hk : ∀ e r s', o = .ok (e, s') → Leads q m r s' → r.depth = q.depth → Ends inner r s' → Locates form p s (k (e, s'))) :
    Locates form p s (o >>= k) := by
  cases o with
  | ok result =>
    obtain ⟨r, hrest, hr, hends⟩ := h
    exact hk result.1 r result.2 rfl hrest hr hends
  | error complaint =>
    obtain ⟨r, s', hrest, hr, hstuck, hcomplaint⟩ := h
    exact ⟨r, s', hleads.trans hrest, Nat.lt_of_le_of_lt hdepth hr, hstuck, hcomplaint⟩

/-! ## The readers -/

theorem readStars_locates (e : Regex) (depth : Nat) (s : Scanner) :
    Locates .factor (.ended depth) s (.ok (readStars e s).result) := by
  by_cases hstar : s.rest.head? = some '*'
  · obtain ⟨rest, hrest⟩ := List.head?_eq_some_iff.1 hstar
    rw [readStars_star e hstar]
    exact Locates.trans (leads_advance hstar (Place.next_star rfl)) rfl (readStars_locates (.star e) depth s.advance)
  · rw [readStars_stop e hstar]
    refine ⟨_, .refl _ s, rfl, fun c hc => Or.inr ?_⟩
    rintro rfl
    exact hstar hc
termination_by s.rest.length
decreasing_by exact s.length_advance_lt (by simp [hrest])

/-- a factor has at least one character -/
theorem length_lt_of_readFactor (h : s.rest.head?.any beginsFactor = true) (hread : outcome (readFactor s) = .ok (e, s')) :
    s'.rest.length < s.rest.length := by
  have hsound := readFactor_sound s h
  rw [hread] at hsound
  obtain ⟨cs, hpass, hderives⟩ := hsound
  obtain ⟨c, rest, rfl, -⟩ := hderives.exists_cons
  rw [hpass.length, List.length_cons]
  omega

mutual

theorem readFactor_locates (p : Place) (s : Scanner) (h : s.rest.head?.any beginsFactor = true) :
    Locates .factor p s (outcome (readFactor s)) := by
  obtain ⟨c, hc, hbegins⟩ := (Option.any_eq_true _ _).1 h
  obtain ⟨rest, hrest⟩ := List.head?_eq_some_iff.1 hc
  rcases beginsFactor_iff.1 hbegins with rfl | halnum | rfl
  · rw [outcome_readFactor_group hc]
    have hopened : Leads p s (.fresh (p.depth + 1)) s.advance := leads_advance hc p.next_open
    refine Locates.bind hopened (Nat.le_succ _) (readExpr_locates _ s.advance) fun e q s' _ hinner hdepth hends => ?_
    have hleads : Leads p s q s' := hopened.trans hinner
    show Locates _ p s (s'.expect (')' : Char).toString >>= fun closed => .ok (readStars e closed).result)
    rw [Scanner.expect_char]
    split
    · next hclosed =>
      exact Locates.trans (hleads.trans (leads_advance hclosed (Place.next_close hdepth))) rfl (readStars_locates e _ _)
    · next hopen =>
      refine ⟨q, s', hleads, hdepth ▸ Nat.lt_succ_self _, fun a ha => (hends a ha).resolve_right ?_, rfl⟩
      rintro rfl
      exact hopen ha
  · rw [outcome_readFactor_letter hc halnum]
    exact Locates.trans (leads_advance hc (p.next_sign (Or.inl halnum))) rfl (readStars_locates _ _ _)
  · rw [outcome_readFactor_empty hc]
    exact Locates.trans (leads_advance hc (p.next_sign (Or.inr rfl))) rfl (readStars_locates _ _ _)
termination_by (s.rest.length, 0)
decreasing_by exact Prod.Lex.left _ _ (s.length_advance_lt (by simp [hrest]))

theorem readFactors_locates (t : Regex) (p : Place) (s : Scanner) (h : Ends .factor p s) :
    Locates .term p s (outcome (readFactors t s)) := by
  rw [outcome_readFactors]
  split
  · next hbegins =>
    refine Locates.bind (.refl p s) (Nat.le_refl _) (readFactor_locates p s hbegins) fun f q s' hread hleads hdepth hends => ?_
    have hshorter := length_lt_of_readFactor hbegins hread
    exact Locates.trans hleads hdepth (readFactors_locates _ q s' hends)
  · next hbegins => exact ⟨p, .refl p s, rfl, h.term (by simpa using hbegins)⟩
termination_by (s.rest.length, 1)
decreasing_by
  · exact Prod.Lex.right _ Nat.zero_lt_one
  · exact Prod.Lex.left _ _ hshorter

theorem readBars_locates (e : Regex) (p : Place) (s : Scanner) (h : Ends .term p s) :
    Locates .expr p s (outcome (readBars e s)) := by
  rw [outcome_readBars]
  split
  · next hbar =>
    have hshorter : s.advance.rest.length < s.rest.length := s.length_advance_lt fun hnil => by simp [hnil] at hbar
    have hpassed : Leads p s (.fresh p.depth) s.advance := leads_advance hbar p.next_bar
    refine Locates.bind hpassed (Nat.le_refl _) (readFactors_locates .empty _ s.advance (ends_fresh p.depth s.advance))
      fun t q s' _ hterm hdepth hends => ?_
    have hlength := hterm.length_le
    exact Locates.trans (hpassed.trans hterm) hdepth (readBars_locates _ q s' hends)
  · next hbar => exact ⟨p, .refl p s, rfl, h.expr hbar⟩
termination_by (s.rest.length, 2)
decreasing_by
  · exact Prod.Lex.left _ _ hshorter
  · exact Prod.Lex.left _ _ (Nat.lt_of_le_of_lt hlength hshorter)

theorem readExpr_locates (depth : Nat) (s : Scanner) : Locates .expr (.fresh depth) s (outcome (readExpr s)) := by
  rw [outcome_readExpr]
  refine Locates.bind (.refl _ s) (Nat.le_refl _) (readFactors_locates .empty _ s (ends_fresh depth s))
    fun t q s' _ hleads hdepth hends => ?_
  have hlength := hleads.length_le
  exact Locates.trans hleads hdepth (readBars_locates t q s' hends)
termination_by (s.rest.length, 3)
decreasing_by
  · exact Prod.Lex.right _ (by decide)
  · exact (Nat.lt_or_eq_of_le hlength).elim (Prod.Lex.left _ _) fun h => h ▸ Prod.Lex.right _ (by decide)

end

/-! ## Whole texts -/

/-- **Where a text is refused.** A text is read if the places lead through all of it and leave no group open. Otherwise they
lead to the complaint and no further: to a character that cannot stand there, or to the end with a group open. -/
theorem read_locates (source : String) :
    (∃ e q, read source = .ok e ∧ (Place.fresh 0).after source.toList = some q ∧ q.depth = 0) ∨
      ∃ c cs rest q, read source = .error c ∧ source.toList = cs ++ rest ∧ c.position = cs.length ∧
        (Place.fresh 0).after cs = some q ∧ (∀ a, rest.head? = some a → q.next a = none) ∧
        (rest = [] → 0 < q.depth ∧ c.fault = .mismatch none ")") := by
  have hlocates := readExpr_locates 0 (.ofString source)
  rw [read_eq]
  cases hread : outcome (readExpr (.ofString source)) with
  | error complaint =>
    rw [hread] at hlocates
    obtain ⟨q, s', ⟨cs, hpass, hafter⟩, hdepth, hstuck, rfl⟩ := hlocates
    refine .inr ⟨_, cs, s'.rest, q, rfl, hpass.rest, hpass.position.trans (Nat.zero_add _), hafter, hstuck, fun hnil => ?_⟩
    exact ⟨hdepth, by rw [hnil]; rfl⟩
  | ok result =>
    obtain ⟨e, s'⟩ := result
    rw [hread] at hlocates
    obtain ⟨q, ⟨cs, hpass, hafter⟩, hdepth, hends⟩ := hlocates
    have hsource : source.toList = cs ++ s'.rest := hpass.rest
    cases hrest : s'.rest with
    | nil =>
      rw [hrest, List.append_nil] at hsource
      exact .inl ⟨e, q, by simp [hrest, bind, Except.bind], by rwa [hsource], hdepth⟩
    | cons c rest =>
      refine .inr ⟨s'.complain (.unexpected c), cs, c :: rest, q, by simp [hrest, bind, Except.bind], hrest ▸ hsource,
        hpass.position.trans (Nat.zero_add _), hafter, fun a ha => ?_, by simp⟩
      rcases hends a (by rw [hrest]; exact ha) with hnone | rfl
      · exact hnone
      · exact Place.next_close_zero hdepth

/-- **What can be read.** A text is an expression just if each character can stand where it does and no group is left open. -/
theorem read_isOk_iff (source : String) :
    (∃ e, read source = .ok e) ↔ ∃ q, (Place.fresh 0).after source.toList = some q ∧ q.depth = 0 := by
  rcases read_locates source with ⟨e, q, hread, hafter, hdepth⟩ | ⟨c, cs, rest, q, hread, hsource, -, hafter, hstuck, hopen⟩
  · exact iff_of_true ⟨e, hread⟩ ⟨q, hafter, hdepth⟩
  · refine iff_of_false (fun ⟨e, he⟩ => ?_) fun ⟨q', hafter', hdepth⟩ => ?_
    · rw [hread] at he
      cases he
    · rw [hsource] at hafter'
      cases rest with
      | nil =>
        rw [List.append_nil, hafter] at hafter'
        cases hafter'
        exact absurd hdepth (Nat.ne_of_gt (hopen rfl).1)
      | cons a rest =>
        rw [Place.after_eq_none hafter (hstuck a rfl)] at hafter'
        cases hafter'

/-- **A complaint points at the first character that is wrong.** The text before it begins a text that is read, the text up
to and with the character there does not, and if there is none, a closing parenthesis is missing. -/
theorem complaint_at_first_offence {source : String} {c : Complaint} (h : read source = .error c) :
    c.position ≤ source.length ∧
      (∃ text e, read text = .ok e ∧ source.toList.take c.position <+: text.toList) ∧
      (c.position < source.length → ∀ text e, read text = .ok e → ¬ source.toList.take (c.position + 1) <+: text.toList) ∧
      (c.position = source.length → c.message = "end of input found when expecting ')'") := by
  obtain ⟨e, -, hread, -⟩ | ⟨c', cs, rest, q, hread, hsource, hposition, hafter, hstuck, hopen⟩ := read_locates source
  · rw [hread] at h
    cases h
  · obtain rfl : c' = c := Except.error.inj (hread.symm.trans h)
    have hlength : source.length = cs.length + rest.length := by
      rw [← String.length_toList, hsource, List.length_append]
    refine ⟨by omega, ?_, fun hlt text e htext hprefix => ?_, fun heq => ?_⟩
    · -- closing parentheses are enough
      obtain ⟨q', hclosed, hdepth⟩ := q.after_closings
      have hwhole : (Place.fresh 0).after (String.ofList (cs ++ List.replicate q.depth ')')).toList = some q' := by
        rw [String.toList_ofList, Place.after_append, hafter]
        exact hclosed
      obtain ⟨e, htext⟩ := (read_isOk_iff _).2 ⟨q', hwhole, hdepth⟩
      refine ⟨_, e, htext, ?_⟩
      rw [String.toList_ofList, hsource, hposition, List.take_left]
      exact List.prefix_append _ _
    · cases rest with
      | nil =>
        rw [List.length_nil] at hlength
        omega
      | cons a rest =>
        obtain ⟨later, hlater⟩ := hprefix
        rw [hsource, hposition, List.append_cons, List.take_left' (by simp), ← List.append_cons] at hlater
        obtain ⟨q', hafter', -⟩ := (read_isOk_iff text).1 ⟨e, htext⟩
        rw [← hlater, Place.after_eq_none hafter (hstuck a rfl)] at hafter'
        cases hafter'
    · have hnil : rest = [] := List.eq_nil_of_length_eq_zero (by omega)
      rw [Complaint.message, (hopen hnil).2]
      rfl

/-- a star at the beginning of a group, where there is nothing to repeat -/
theorem complaint_at_first_offence_star :
    read "(*" = .error ⟨.mismatch (some '*') ")", "(*", 1⟩ ∧ (∃ text e, read text = .ok e ∧ ['('] <+: text.toList) ∧
      ∀ text e, read text = .ok e → ¬ ['(', '*'] <+: text.toList := by
  -- the group has no more than the empty string before the star
  have hinner : outcome (readExpr (Scanner.ofString "(*").advance) = .ok (.empty, (Scanner.ofString "(*").advance) := by
    rw [outcome_readExpr, outcome_readFactors_stop _ rfl]
    show outcome (readBars .empty _) = _
    rw [outcome_readBars, if_neg (by decide)]
  have hread : read "(*" = .error ⟨.mismatch (some '*') ")", "(*", 1⟩ := by
    rw [read_eq, outcome_readExpr, outcome_readFactors, if_pos (by decide), outcome_readFactor_group rfl, hinner]
    rfl
  obtain ⟨-, hviable, hnone, -⟩ := complaint_at_first_offence hread
  exact ⟨hread, hviable, hnone (by decide)⟩

end GrammarLab.Regex
