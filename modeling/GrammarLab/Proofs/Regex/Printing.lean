/-
A printed expression reads back as one that says the same.

The printer writes no parentheses around a sequence and none around what stands first in one, so the tree of an expression
is lost: `a(bc)` is printed as `abc`. What it keeps is the language and the text itself. `Alike` is that of two
expressions, and `Rereads e` that the text of `e`, wherever the grammar has a place for it, is that of an expression alike.
- `Printable.rereads`: this is so for every expression with plain letters in which no alternative stands first in a
  sequence, by induction on the expression;
- `Derives.printable`: the expressions that the reader makes are such;
- `toText_faithful`: so what the reader has made can be printed and read again, with the same levels and the same text;
- `toText_unambiguous`: and printable expressions with the same text have the same language, since a text is read in one
  way. An alternative that does stand first in one is printed without parentheses (`toText_seq_alt`).
-/
import GrammarLab.Proofs.Language.Strings
import GrammarLab.Proofs.Regex.Forms

namespace GrammarLab.Regex

/-! ## Expressions that can be printed -/

/-- letters are signs of their own, and a sequence does not begin with an alternative -/
def Printable : Regex → Prop
  | empty => True
  | letter s => isAlphanumericText s = true
  | alt left right => left.Printable ∧ right.Printable
  | seq left right => left.isAlt = false ∧ left.Printable ∧ right.Printable
  | star inner => inner.Printable

theorem isAlphanumericText_iff {s : String} :
    isAlphanumericText s = true ↔ ∃ c, s.toList = [c] ∧ isAlphanumeric c = true := by
  unfold isAlphanumericText
  split
  · next c hs => simp [hs]
  · next hs => simp only [Bool.false_eq_true, false_iff, not_exists, not_and]; exact fun c hc => absurd hc (hs c)

theorem Printable.singleLetters {e : Regex} (h : e.Printable) : e.SingleLetters := by
  induction e with
  | empty => trivial
  | letter s =>
    obtain ⟨c, hs, -⟩ := isAlphanumericText_iff.1 h
    show s.length = 1
    rw [← String.length_toList, hs, List.length_singleton]
  | alt left right ihl ihr => exact ⟨ihl h.1, ihr h.2⟩
  | seq left right ihl ihr => exact ⟨ihl h.2.1, ihr h.2.2⟩
  | star inner ih => exact ih h

/-- a term is the empty string or a sequence -/
theorem Derives.isAlt_of_term {cs : List Char} {t : Regex} (h : Derives .term cs t) : t.isAlt = false := by
  cases h with
  | blank => rfl
  | next => rfl

theorem Derives.printable {form : Form} {cs : List Char} {e : Regex} (h : Derives form cs e) : e.Printable := by
  induction h with
  | single _ ih => exact ih
  | bar _ _ ihe iht => exact ⟨ihe, iht⟩
  | blank => trivial
  | next ht _ iht ihf => exact ⟨ht.isAlt_of_term, iht, ihf⟩
  | @letter c hc => exact isAlphanumericText_iff.2 ⟨c, by simp, hc⟩
  | empty => trivial
  | group _ ih => exact ih
  | star _ ih => exact ih

/-! ## Texts -/

theorem toList_parenthesized (s : String) : (parenthesized true s).toList = '(' :: (s.toList ++ [')']) := by
  simp [parenthesized]

@[simp] theorem parenthesized_false (s : String) : parenthesized false s = s := rfl

/-- what stands before the last part of a sequence -/
def lead (t : Regex) : String := if t = empty then "" else t.toText

/-- an expression as a part of a sequence -/
def part (e : Regex) : String := parenthesized e.isAlt e.toText

theorem part_of_not_isAlt {e : Regex} (h : e.isAlt = false) : e.part = e.toText := by
  rw [part, h, parenthesized_false]

theorem toText_seq (left right : Regex) : (seq left right).toText = left.lead ++ right.part := by
  cases left <;> simp [toText, lead, part]

theorem lead_of_ne {t : Regex} (h : t ≠ empty) : t.lead = t.toText := if_neg h

/-! ## Saying the same -/

/-- two expressions stand for the same texts and are printed alike -/
structure Alike (a b : Regex) : Prop where
  denotation : a.denotation = b.denotation
  text : a.toText = b.toText

namespace Alike

variable {a b c d t u l r : Regex}

theorem refl (a : Regex) : Alike a a := ⟨rfl, rfl⟩

theorem trans (h : Alike a b) (h' : Alike b c) : Alike a c :=
  ⟨h.denotation.trans h'.denotation, h.text.trans h'.text⟩

instance : Trans Alike Alike Alike := ⟨trans⟩

theorem alt (h : Alike a b) (h' : Alike c d) : Alike (.alt a c) (.alt b d) :=
  ⟨congrArg₂ (· + ·) h.denotation h'.denotation, by rw [toText, toText, h.text, h'.text]⟩

/-- under a star, if both need parentheses there or neither does -/
theorem star (h : Alike a b) (hatomic : a.isAtomic = b.isAtomic) : Alike (.star a) (.star b) :=
  ⟨congrArg KStar.kstar h.denotation, by rw [toText, toText, h.text, hatomic]⟩

/-- at the end of a sequence, if both need parentheses there or neither does -/
theorem seq_right (t : Regex) (h : Alike a b) (halt : a.isAlt = b.isAlt) : Alike (seq t a) (seq t b) :=
  ⟨congrArg (t.denotation * ·) h.denotation, by rw [toText_seq, toText_seq, part, part, h.text, halt]⟩

/-- at the beginning of a sequence, if neither is left out there -/
theorem seq_left (r : Regex) (h : Alike a b) (ha : a ≠ empty) (hb : b ≠ empty) : Alike (seq a r) (seq b r) :=
  ⟨congrArg (· * r.denotation) h.denotation, by rw [toText_seq, toText_seq, lead_of_ne ha, lead_of_ne hb, h.text]⟩

/-- a sequence of one -/
theorem seq_empty (h : a.isAlt = false) : Alike (seq empty a) a :=
  ⟨one_mul _, by rw [toText_seq, part_of_not_isAlt h]; exact String.empty_append⟩

/-- a sequence of one at the end of a sequence -/
theorem seq_seq_empty (t r : Regex) : Alike (seq t r) (seq t (seq empty r)) := by
  have hpart : (seq empty r).part = r.part := by
    rw [part_of_not_isAlt rfl, toText_seq]
    exact String.empty_append
  exact ⟨congrArg (t.denotation * ·) (one_mul _).symm, by rw [toText_seq, toText_seq, hpart]⟩

theorem seq_assoc (t r : Regex) (hl : l ≠ empty) (halt : l.isAlt = false) :
    Alike (seq (seq t l) r) (seq t (seq l r)) := by
  have hlead : (seq t l).lead = t.lead ++ l.toText := by
    rw [lead_of_ne (by simp), toText_seq, part_of_not_isAlt halt]
  have hpart : (seq l r).part = l.toText ++ r.part := by
    rw [part_of_not_isAlt rfl, toText_seq, lead_of_ne hl]
  refine ⟨mul_assoc _ _ _, ?_⟩
  calc (seq (seq t l) r).toText
      = (t.lead ++ l.toText) ++ r.part := by rw [toText_seq, hlead]
    _ = t.lead ++ (l.toText ++ r.part) := String.append_assoc
    _ = (seq t (seq l r)).toText := by rw [toText_seq, hpart]

theorem alt_assoc (u l r : Regex) : Alike (.alt (.alt u l) r) (.alt u (.alt l r)) :=
  ⟨add_assoc _ _ _, by simp [toText, String.append_assoc]⟩

end Alike

/-! ## Reading again -/

/-- the text of the expression, as it stands before a star, is a factor -/
def TakesStar (e : Regex) : Prop :=
  ∃ f, Derives .factor (parenthesized (!e.isAtomic) e.toText).toList f ∧ Alike f e ∧ f.isAtomic = e.isAtomic

/-- the text of the expression, as it stands in a sequence, makes a term longer -/
def FollowsTerm (e : Regex) : Prop :=
  ∀ cs t, Derives .term cs t → ∃ v f, Derives .term (cs ++ e.part.toList) (seq v f) ∧ Alike (seq v f) (seq t e)

/-- the text of the expression after a bar makes an expression longer -/
def FollowsBar (e : Regex) : Prop :=
  ∀ cs u, Derives .expr cs u →
    ∃ v w, Derives .expr (cs ++ '|' :: e.toText.toList) (alt v w) ∧ Alike (alt v w) (alt u e)

/-- the text of the expression is an expression -/
def StandsAlone (e : Regex) : Prop :=
  ∃ v, Derives .expr e.toText.toList v ∧ Alike v e ∧ v.isAlt = e.isAlt ∧ v.isAtomic = false

/-- the text of the expression is that of an expression alike in every place where the printer puts it -/
structure Rereads (e : Regex) : Prop where
  takesStar : TakesStar e
  followsTerm : FollowsTerm e
  followsBar : FollowsBar e
  standsAlone : StandsAlone e

variable {e l r : Regex}

/-- what needs no parentheses in a sequence is a term of its own -/
theorem FollowsTerm.exists_term (h : FollowsTerm e) (halt : e.isAlt = false) :
    ∃ v f, Derives .term e.toText.toList (seq v f) ∧ Alike (seq v f) e := by
  obtain ⟨v, f, hderives, halike⟩ := h [] empty .blank
  rw [List.nil_append, part_of_not_isAlt halt] at hderives
  exact ⟨v, f, hderives, halike.trans (.seq_empty halt)⟩

theorem FollowsTerm.followsBar (h : FollowsTerm e) (halt : e.isAlt = false) : FollowsBar e := by
  intro cs u hu
  obtain ⟨v, f, hderives, halike⟩ := h.exists_term halt
  exact ⟨u, seq v f, hu.bar hderives, .alt (.refl u) halike⟩

theorem FollowsTerm.standsAlone (h : FollowsTerm e) (halt : e.isAlt = false) : StandsAlone e := by
  obtain ⟨v, f, hderives, halike⟩ := h.exists_term halt
  exact ⟨seq v f, hderives.single, halike, halt.symm, rfl⟩

/-- what is more than one sign stands in parentheses before a star -/
theorem StandsAlone.takesStar (h : StandsAlone e) (hatomic : e.isAtomic = false) : TakesStar e := by
  obtain ⟨v, hderives, halike, -, hv⟩ := h
  refine ⟨v, ?_, halike, hv.trans hatomic.symm⟩
  rw [hatomic, Bool.not_false, toList_parenthesized]
  exact hderives.group

/-- what is one sign, or a star, is a factor everywhere -/
theorem rereads_of_factor {f : Regex} (hderives : Derives .factor e.toText.toList f) (halike : Alike f e)
    (he : e.isAtomic = true ∧ e.isAlt = false) (hf : f.isAtomic = true ∧ f.isAlt = false) : Rereads e := by
  have hterm : FollowsTerm e := by
    intro cs t ht
    rw [part_of_not_isAlt he.2]
    exact ⟨t, f, ht.next hderives, halike.seq_right t (hf.2.trans he.2.symm)⟩
  have hstar : TakesStar e := by
    refine ⟨f, ?_, halike, hf.1.trans he.1.symm⟩
    rw [he.1, Bool.not_true, parenthesized_false]
    exact hderives
  exact ⟨hstar, hterm, hterm.followsBar he.2, hterm.standsAlone he.2⟩

theorem rereads_empty : Rereads empty := rereads_of_factor .empty (.refl _) ⟨rfl, rfl⟩ ⟨rfl, rfl⟩

theorem rereads_letter {s : String} (h : isAlphanumericText s = true) : Rereads (letter s) := by
  obtain ⟨c, hs, hc⟩ := isAlphanumericText_iff.1 h
  obtain rfl : s = c.toString := String.toList_inj.1 (by rw [hs, Char.toString_eq_singleton, String.toList_singleton])
  have hderives : Derives .factor (letter c.toString).toText.toList (letter c.toString) := by
    rw [toText, hs]
    exact .letter hc
  exact rereads_of_factor hderives (.refl _) ⟨rfl, rfl⟩ ⟨rfl, rfl⟩

theorem Rereads.star (h : Rereads e) : Rereads (star e) := by
  obtain ⟨f, hderives, halike, hatomic⟩ := h.takesStar
  have hstar : Derives .factor (Regex.star e).toText.toList (Regex.star f) := by
    rw [toText, String.toList_append]
    exact hderives.star
  exact rereads_of_factor hstar (halike.star hatomic) ⟨rfl, rfl⟩ ⟨rfl, rfl⟩

/-- the parts of a sequence are put one after another behind the term that stands before it -/
theorem Rereads.seq (hl : Rereads l) (hr : Rereads r) (halt : l.isAlt = false) : Rereads (seq l r) := by
  have hterm : FollowsTerm (.seq l r) := by
    intro cs t ht
    rw [part_of_not_isAlt (e := .seq l r) rfl, toText_seq, String.toList_append]
    by_cases hempty : l = empty
    · -- the empty string at the beginning is not printed
      subst hempty
      obtain ⟨v, f, hderives, halike⟩ := hr.followsTerm cs t ht
      exact ⟨v, f, hderives, halike.trans (.seq_seq_empty t r)⟩
    · obtain ⟨v, f, hleft, halike⟩ := hl.followsTerm cs t ht
      obtain ⟨v', f', hright, halike'⟩ := hr.followsTerm _ _ hleft
      have hsame : Alike (.seq v' f') (.seq t (.seq l r)) := calc
        Alike (.seq v' f') (.seq (.seq v f) r) := halike'
        Alike _ (.seq (.seq t l) r) := halike.seq_left r (by simp) (by simp)
        Alike _ (.seq t (.seq l r)) := .seq_assoc t r hempty halt
      refine ⟨v', f', ?_, hsame⟩
      rw [lead_of_ne hempty, ← part_of_not_isAlt halt, ← List.append_assoc]
      exact hright
  have halone : StandsAlone (.seq l r) := hterm.standsAlone rfl
  exact ⟨halone.takesStar rfl, hterm, hterm.followsBar rfl, halone⟩

/-- the sides of an alternative are put one after another behind the expression that stands before it -/
theorem Rereads.alt (hl : Rereads l) (hr : Rereads r) : Rereads (alt l r) := by
  have htext : (Regex.alt l r).toText.toList = l.toText.toList ++ '|' :: r.toText.toList := by simp [toText]
  have hbar : FollowsBar (.alt l r) := by
    intro cs u hu
    obtain ⟨v, w, hleft, halike⟩ := hl.followsBar cs u hu
    obtain ⟨v', w', hright, halike'⟩ := hr.followsBar _ _ hleft
    have hsame : Alike (.alt v' w') (.alt u (.alt l r)) := calc
      Alike (.alt v' w') (.alt (.alt v w) r) := halike'
      Alike _ (.alt (.alt u l) r) := halike.alt (.refl r)
      Alike _ (.alt u (.alt l r)) := .alt_assoc u l r
    refine ⟨v', w', ?_, hsame⟩
    rw [htext, ← List.cons_append, ← List.append_assoc]
    exact hright
  have halone : StandsAlone (.alt l r) := by
    obtain ⟨u, hu, halike, -, -⟩ := hl.standsAlone
    obtain ⟨v, w, hderives, halike'⟩ := hr.followsBar _ _ hu
    exact ⟨.alt v w, htext ▸ hderives, halike'.trans (halike.alt (.refl r)), rfl, rfl⟩
  have hterm : FollowsTerm (.alt l r) := by
    intro cs t ht
    obtain ⟨v, hderives, halike, halt, -⟩ := halone
    refine ⟨t, v, ht.next ?_, halike.seq_right t halt⟩
    rw [part, isAlt, toList_parenthesized]
    exact hderives.group
  exact ⟨halone.takesStar rfl, hterm, hbar, halone⟩

/-- **Printed expressions read back**: the text of a printable expression is that of an expression alike -/
theorem Printable.rereads (h : e.Printable) : Rereads e := by
  induction e with
  | empty => exact rereads_empty
  | letter s => exact rereads_letter h
  | alt left right ihl ihr => exact (ihl h.1).alt (ihr h.2)
  | seq left right ihl ihr => exact (ihl h.2.1).seq (ihr h.2.2) h.1
  | star inner ih => exact (ih h).star

theorem derives_of_read {source : String} (h : read source = .ok e) : Derives .expr source.toList e := by
  rcases read_cases source with ⟨e', hread, hderives⟩ | ⟨c, hread, -⟩
  · obtain rfl : e = e' := Except.ok.inj (h.symm.trans hread)
    exact hderives
  · rw [hread] at h
    cases h

/-- languages of expressions with the same denotation have the same levels -/
theorem levels_eq_of_denotation_eq {a b : Regex} (ha : a.SingleLetters) (hb : b.SingleLetters)
    (h : a.denotation = b.denotation) (n : Nat) : a.levels n = b.levels n :=
  (isLevel_levels ha n).unique (h ▸ isLevel_levels hb n)

/-- **Printing is faithful.** What has been read is printed as a text that can be read; the expression it is then read as
has the same levels, and is printed as the same text. -/
theorem toText_faithful {source : String} (h : read source = .ok e) :
    ∃ e', read e.toText = .ok e' ∧
      (∀ n, ((Language.Store.addRegex #[] e').2.level (Language.Store.addRegex #[] e').1 n).1 =
        ((Language.Store.addRegex #[] e).2.level (Language.Store.addRegex #[] e).1 n).1) ∧
      e'.toText = e.toText := by
  have hprintable : e.Printable := (derives_of_read h).printable
  obtain ⟨e', hderives, halike, -, -⟩ := hprintable.rereads.standsAlone
  refine ⟨e', read_of_derives hderives, fun n => ?_, halike.text⟩
  rw [Language.level_addRegex, Language.level_addRegex]
  exact levels_eq_of_denotation_eq hderives.printable.singleLetters hprintable.singleLetters halike.denotation n

/-- a group in a sequence, and a star after an empty group -/
def groupedSample : Regex := .alt (.seq (.seq .empty (.seq .empty (.letter "a"))) (.letter "b")) (.seq .empty (.star .empty))

/-- the first group is lost and the empty one is written out, and then nothing changes any more -/
theorem toText_faithful_grouped :
    read "(a)b|()*" = .ok groupedSample ∧ groupedSample.toText = "ab|ε*" ∧ ∃ e', read "ab|ε*" = .ok e' ∧
      (∀ n, ((Language.Store.addRegex #[] e').2.level (Language.Store.addRegex #[] e').1 n).1 =
        ((Language.Store.addRegex #[] groupedSample).2.level (Language.Store.addRegex #[] groupedSample).1 n).1) ∧
      e'.toText = "ab|ε*" := by
  have ha : Derives .term ['a'] (.seq .empty (.letter "a")) := .next .blank (.letter (by decide))
  have hleft : Derives .term ['(', 'a', ')', 'b'] (.seq (.seq .empty (.seq .empty (.letter "a"))) (.letter "b")) :=
    .next (.next .blank ha.single.group) (.letter (by decide))
  have hright : Derives .term ['(', ')', '*'] (.seq .empty (.star .empty)) := .next .blank (Derives.blank.single.group.star)
  have hread : read "(a)b|()*" = .ok groupedSample := read_of_derives (hleft.single.bar hright)
  exact ⟨hread, rfl, toText_faithful hread⟩

/-- **Printing is unambiguous** for expressions in which no alternative stands first in a sequence: if they are printed as
the same text, they stand for the same texts and their languages have the same levels. -/
theorem toText_unambiguous {e e' : Regex} (h : e.Printable) (h' : e'.Printable) (htext : e.toText = e'.toText) :
    e.denotation = e'.denotation ∧
      ∀ n, ((Language.Store.addRegex #[] e).2.level (Language.Store.addRegex #[] e).1 n).1 =
        ((Language.Store.addRegex #[] e').2.level (Language.Store.addRegex #[] e').1 n).1 := by
  obtain ⟨v, hderives, halike, -, -⟩ := h.rereads.standsAlone
  obtain ⟨v', hderives', halike', -, -⟩ := h'.rereads.standsAlone
  -- both are alike to what the one text is read as
  have hsame : v = v' := hderives.unique (htext ▸ hderives')
  have hwords : e.denotation = e'.denotation := calc
    e.denotation = v.denotation := halike.denotation.symm
    _ = v'.denotation := by rw [hsame]
    _ = e'.denotation := halike'.denotation
  refine ⟨hwords, fun n => ?_⟩
  rw [Language.level_addRegex, Language.level_addRegex]
  exact levels_eq_of_denotation_eq h.singleLetters h'.singleLetters hwords n

/-- a sequence after an empty sequence is printed as the sequence alone, and under a star both need parentheses -/
theorem toText_unambiguous_nested :
    Printable (.star (.seq (.seq .empty (.letter "a")) (.letter "b"))) ∧
      Printable (.star (.seq .empty (.seq (.letter "a") (.letter "b")))) ∧
      toText (.star (.seq (.seq .empty (.letter "a")) (.letter "b"))) =
        toText (.star (.seq .empty (.seq (.letter "a") (.letter "b")))) ∧
      denotation (.star (.seq (.seq .empty (.letter "a")) (.letter "b"))) =
        denotation (.star (.seq .empty (.seq (.letter "a") (.letter "b")))) := by
  have h : Printable (.star (.seq (.seq .empty (.letter "a")) (.letter "b"))) := by simp [Printable, isAlt]; decide
  have h' : Printable (.star (.seq .empty (.seq (.letter "a") (.letter "b")))) := by simp [Printable, isAlt]; decide
  exact ⟨h, h', rfl, (toText_unambiguous h h' rfl).1⟩

/-- an alternative at the beginning of a sequence loses its second side to the sequence -/
theorem toText_seq_alt (hr : r ≠ empty) (e : Regex) : (seq (.alt l r) e).toText = (alt l (.seq r e)).toText := by
  rw [toText_seq, lead_of_ne (by simp)]
  simp [toText, toText_seq, lead_of_ne hr, String.append_assoc]

/-- a sequence of `a` or `b` and then `c` is printed as `a|bc`, which is another expression -/
theorem toText_ambiguous :
    isAlphanumericText "a" = true ∧ isAlphanumericText "b" = true ∧ isAlphanumericText "c" = true ∧
      toText (.seq (.alt (.letter "a") (.letter "b")) (.letter "c")) =
        toText (.alt (.letter "a") (.seq (.letter "b") (.letter "c"))) ∧
      denotation (.seq (.alt (.letter "a") (.letter "b")) (.letter "c")) ≠
        denotation (.alt (.letter "a") (.seq (.letter "b") (.letter "c"))) := by
  refine ⟨by decide, by decide, by decide, toText_seq_alt (by simp) _, fun hsame => ?_⟩
  -- only one of them stands for `a`
  have hlevels := levels_eq_of_denotation_eq (by decide) (by decide) hsame 1
  exact absurd hlevels (by decide +kernel)

end GrammarLab.Regex
