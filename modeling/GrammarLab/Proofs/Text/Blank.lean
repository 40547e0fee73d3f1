/-
Margins, lines and parts of a text.

- `trim_of_solid`, `trimRight_append_cons`: no character is lost that is not in the margin, and the rest is blank
  (`exists_trimRight`);
- `lines_singleton`, `lines_intercalate`: lines with something in them, one under another, are read as these lines;
- `splitAt_eq_splitOn`, `splitAt_filter`: the parts of a text do not change when characters other than the separator are
  taken out, apart from losing these characters themselves.
-/
import GrammarLab.Text.Blank
import Mathlib.Data.List.DropRight

namespace GrammarLab.Text

variable {c : Char} {cs ds l : List Char}

theorem isBlank_of_isLineEnd (h : isLineEnd c = true) : isBlank c = true := by
  simp only [isLineEnd, isBlank, Bool.or_eq_true, Bool.and_eq_true, decide_eq_true_eq, beq_iff_eq] at h ⊢
  omega

theorem not_isLineEnd_of_not_isBlank (h : isBlank c = false) : isLineEnd c = false := by
  cases hend : isLineEnd c with
  | false => rfl
  | true => exact absurd (isBlank_of_isLineEnd hend) (by simp [h])

/-! ## Margins -/

theorem trimLeft_cons (hc : isBlank c = false) : trimLeft (c :: cs) = c :: cs := by
  rw [trimLeft, List.dropWhile_cons_of_neg (by simp [hc])]

/-- what stands behind a character that is no blank is trimmed on its own -/
theorem trimRight_append_cons (hc : isBlank c = false) : trimRight (cs ++ c :: ds) = cs ++ c :: trimRight ds := by
  have hkept : List.dropWhile isBlank (c :: cs.reverse) = c :: cs.reverse := List.dropWhile_cons_of_neg (by simp [hc])
  rw [trimRight, trimRight, List.reverse_append, List.reverse_cons, List.append_assoc, List.singleton_append,
    List.dropWhile_append, hkept]
  cases hrest : ds.reverse.dropWhile isBlank with
  | nil => simp
  | cons d rest => simp

/-- what is trimmed off is blank -/
theorem exists_trimRight (cs : List Char) : ∃ bs, cs = trimRight cs ++ bs ∧ ∀ b ∈ bs, isBlank b = true :=
  ⟨cs.rtakeWhile isBlank, List.rdropWhile_append_rtakeWhile.symm, fun _ hb => List.mem_rtakeWhile_imp hb⟩

theorem filter_trimRight (cs : List Char) :
    ((trimRight cs).filter fun c => !isBlank c) = cs.filter fun c => !isBlank c := by
  obtain ⟨bs, hcs, hbs⟩ := exists_trimRight cs
  have hnone : (bs.filter fun c => !isBlank c) = [] := List.filter_eq_nil_iff.2 fun b hb => by simp [hbs b hb]
  conv_rhs => rw [hcs, List.filter_append, hnone, List.append_nil]

theorem filter_trimLeft (cs : List Char) :
    ((trimLeft cs).filter fun c => !isBlank c) = cs.filter fun c => !isBlank c := by
  have hnone : ((cs.takeWhile isBlank).filter fun c => !isBlank c) = [] :=
    List.filter_eq_nil_iff.2 fun b hb => by simp [List.mem_takeWhile_imp hb]
  conv_rhs => rw [← List.takeWhile_append_dropWhile (p := isBlank) (l := cs), List.filter_append, hnone, List.nil_append]
  rfl

/-- a text is empty without its margins only if nothing but blanks is in it -/
theorem trim_ne_nil (h : ∃ c ∈ cs, isBlank c = false) : trim cs ≠ [] := by
  obtain ⟨c, hc, hblank⟩ := h
  have hmem : c ∈ (trim cs).filter fun c => !isBlank c := by
    rw [trim, filter_trimRight, filter_trimLeft]
    exact List.mem_filter.2 ⟨hc, by simp [hblank]⟩
  exact List.ne_nil_of_mem (List.mem_of_mem_filter hmem)

theorem mem_of_mem_trim (h : c ∈ trim cs) : c ∈ cs := by
  obtain ⟨bs, hcs, -⟩ := exists_trimRight (trimLeft cs)
  have hleft : c ∈ trimLeft cs := hcs ▸ List.mem_append_left bs h
  exact (List.dropWhile_sublist isBlank).subset hleft

/-- there is no margin on either side -/
structure Solid (cs : List Char) : Prop where
  first : ∃ c rest, cs = c :: rest ∧ isBlank c = false
  last : ∃ front c, cs = front ++ [c] ∧ isBlank c = false

theorem Solid.ne_nil (h : Solid cs) : cs ≠ [] := by
  obtain ⟨c, rest, rfl, -⟩ := h.first
  simp

theorem trim_of_solid (h : Solid cs) : trim cs = cs := by
  obtain ⟨c, rest, rfl, hc⟩ := h.first
  obtain ⟨front, d, hlast, hd⟩ := h.last
  rw [trim, trimLeft_cons hc, hlast, trimRight_append_cons hd]
  rfl

theorem solid_of_all (hne : cs ≠ []) (h : ∀ c ∈ cs, isBlank c = false) : Solid cs where
  first := by
    obtain ⟨c, rest, rfl⟩ := List.exists_cons_of_ne_nil hne
    exact ⟨c, rest, rfl, h c List.mem_cons_self⟩
  last := ⟨cs.dropLast, cs.getLast hne, (List.dropLast_append_getLast hne).symm, h _ (List.getLast_mem hne)⟩

/-- two solid texts have no margin around them, whatever is between them -/
theorem Solid.append (hc : Solid cs) (hd : Solid ds) : Solid (cs ++ l ++ ds) where
  first := by
    obtain ⟨c, rest, rfl, hblank⟩ := hc.first
    exact ⟨c, rest ++ l ++ ds, rfl, hblank⟩
  last := by
    obtain ⟨front, d, rfl, hblank⟩ := hd.last
    exact ⟨cs ++ l ++ front, d, by simp, hblank⟩

theorem solid_intercalate {sep : List Char} {parts : List (List Char)} (hne : parts ≠ [])
    (h : ∀ part ∈ parts, Solid part) : Solid (sep.intercalate parts) := by
  induction parts with
  | nil => exact absurd rfl hne
  | cons part parts ih =>
    obtain ⟨hpart, hparts⟩ := List.forall_mem_cons.1 h
    cases parts with
    | nil => simpa using hpart
    | cons next parts =>
      rw [List.intercalate_cons_cons]
      exact hpart.append (ih (List.cons_ne_nil _ _) hparts)

/-! ## Lines -/

theorem lines.go_cons (hc : isLineEnd c = false) (current : List Char) (begun : Bool) :
    lines.go current begun (c :: cs) = lines.go (c :: current) true cs := by
  rw [lines.go]
  · simp [hc]
  · rintro rest rfl -
    exact absurd hc (by decide)

/-- the characters of a line are gathered up to its end -/
theorem lines.go_append (h : ∀ c ∈ l, isLineEnd c = false) (hne : l ≠ []) (current : List Char) (begun : Bool) :
    lines.go current begun (l ++ cs) = lines.go (l.reverse ++ current) true cs := by
  induction l generalizing current begun with
  | nil => exact absurd rfl hne
  | cons c l ih =>
    obtain ⟨hc, hl⟩ := List.forall_mem_cons.1 h
    rw [List.cons_append, lines.go_cons hc]
    cases l with
    | nil => rfl
    | cons d l => rw [ih hl (List.cons_ne_nil _ _), List.reverse_cons (a := c), List.append_assoc, List.singleton_append]

theorem lines_singleton (h : ∀ c ∈ l, isLineEnd c = false) (hne : l ≠ []) : lines l = [l] := by
  have hgo : lines.go [] false (l ++ []) = lines.go (l.reverse ++ []) true [] := lines.go_append h hne [] false
  rw [List.append_nil, List.append_nil] at hgo
  rw [lines, hgo, lines.go, if_pos rfl, List.reverse_reverse]

theorem lines_append_newline (h : ∀ c ∈ l, isLineEnd c = false) (hne : l ≠ []) :
    lines (l ++ '\n' :: cs) = l :: lines cs := by
  have hend : isLineEnd '\n' = true := by decide
  rw [lines, lines.go_append h hne, List.append_nil, lines.go]
  · simp [hend, lines]
  · intro rest hr
    exact absurd hr (by decide)

/-- **Lines with something in them are read one by one.** -/
theorem lines_intercalate {ls : List (List Char)} (h : ∀ l ∈ ls, l ≠ [] ∧ ∀ c ∈ l, isLineEnd c = false) :
    lines (['\n'].intercalate ls) = ls := by
  induction ls with
  | nil => rfl
  | cons l ls ih =>
    obtain ⟨⟨hne, hl⟩, hls⟩ := List.forall_mem_cons.1 h
    cases ls with
    | nil => simpa using lines_singleton hl hne
    | cons next ls =>
      rw [List.intercalate_cons_cons, List.append_assoc, List.singleton_append, lines_append_newline hl hne, ih hls]

/-! ## Parts -/

theorem splitAt_eq_splitOn (sep : Char) (cs : List Char) : splitAt sep cs = cs.splitOn sep := by
  induction cs with
  | nil => rfl
  | cons c cs ih =>
    rw [splitAt, List.splitOn_cons_eq_if_modifyHead, ih]
    by_cases hc : c = sep
    · rw [if_pos hc, if_pos (by simp [hc])]
    · rw [if_neg hc, if_neg (by simp [hc])]
      cases hparts : cs.splitOn sep with
      | nil => exact absurd hparts (List.splitOn_ne_nil _ _)
      | cons part parts => rfl

theorem splitAt_cons_self (sep : Char) (cs : List Char) : splitAt sep (sep :: cs) = [] :: splitAt sep cs := by
  rw [splitAt, if_pos rfl]

theorem splitAt_cons_of_ne {sep : Char} (hc : c ≠ sep) (cs : List Char) :
    splitAt sep (c :: cs) = (splitAt sep cs).modifyHead (c :: ·) := by
  rw [splitAt_eq_splitOn, splitAt_eq_splitOn, List.splitOn_cons_eq_if_modifyHead, if_neg (by simp [hc])]

/-- no part holds the separator -/
theorem not_mem_of_mem_splitAt {sep : Char} {part : List Char} (h : part ∈ splitAt sep cs) : sep ∉ part := by
  induction cs generalizing part with
  | nil => simp_all [splitAt]
  | cons c cs ih =>
    by_cases hc : c = sep
    · subst hc
      rw [splitAt_cons_self, List.mem_cons] at h
      rcases h with rfl | h
      · exact List.not_mem_nil
      · exact ih h
    · rw [splitAt_cons_of_ne hc] at h
      cases hparts : splitAt sep cs with
      | nil => simp [hparts] at h
      | cons first parts =>
        rw [hparts, List.modifyHead_cons, List.mem_cons] at h
        rw [hparts] at ih
        rcases h with rfl | h
        · exact fun hmem => (List.mem_cons.1 hmem).elim (fun e => hc e.symm) (ih List.mem_cons_self)
        · exact ih (List.mem_cons_of_mem _ h)

/-- characters other than the separator may be taken out before or after a text is parted -/
theorem splitAt_filter {sep : Char} {p : Char → Bool} (hsep : p sep = true) (cs : List Char) :
    splitAt sep (cs.filter p) = (splitAt sep cs).map (List.filter p) := by
  induction cs with
  | nil => rfl
  | cons c cs ih =>
    by_cases hc : c = sep
    · subst hc
      rw [List.filter_cons_of_pos hsep, splitAt_cons_self, splitAt_cons_self, ih, List.map_cons, List.filter_nil]
    · have hparts : splitAt sep cs ≠ [] := by
        rw [splitAt_eq_splitOn]
        exact List.splitOn_ne_nil _ _
      obtain ⟨part, parts, hcs⟩ := List.exists_cons_of_ne_nil hparts
      rw [splitAt_cons_of_ne hc, hcs, List.modifyHead_cons, List.map_cons]
      cases hp : p c with
      | true =>
        rw [List.filter_cons_of_pos hp, splitAt_cons_of_ne hc, ih, hcs, List.map_cons, List.modifyHead_cons,
          List.filter_cons_of_pos hp]
      | false => rw [List.filter_cons_of_neg (by simp [hp]), ih, hcs, List.map_cons, List.filter_cons_of_neg (by simp [hp])]

end GrammarLab.Text
