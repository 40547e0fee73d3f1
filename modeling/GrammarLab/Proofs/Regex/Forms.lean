/-
The reader of regular expressions reads the texts of its grammar and no others.

`Derives` is the grammar: which texts are an expression, a term or a factor, and which expression each of them is. Terms
and bars nest to the left, a term begins with the empty string, and every star stands around the factor before it.

- `outcome_readExpr` and its siblings: the readers as plain equations, without the bounds they carry to end.
- `readExpr_sound`: what a reader takes has its form, and it only complains of a group that is not closed.
- `Derives.completes`: a text of a form is taken as a whole, provided that what follows cannot belong to it.
- `read_exact`: a text is read as `e` exactly if the grammar makes it `e`; any other text is refused.
-/
import GrammarLab.Regex.Reader

namespace GrammarLab.Text.Scanner

/-- the scanner after some characters, which stand next -/
structure Passes (s : Scanner) (cs : List Char) (s' : Scanner) : Prop where
  source : s'.source = s.source
  rest : s.rest = cs ++ s'.rest
  position : s'.position = s.position + cs.length

theorem Passes.refl (s : Scanner) : s.Passes [] s := ⟨rfl, rfl, rfl⟩

theorem Passes.eq {s s' : Scanner} (h : s.Passes [] s') : s' = s := by
  obtain ⟨hsource, hrest, hposition⟩ := h
  cases s
  cases s'
  simp_all

theorem Passes.trans {s m s' : Scanner} {cs ds : List Char} (h : s.Passes cs m) (h' : m.Passes ds s') :
    s.Passes (cs ++ ds) s' :=
  ⟨h'.source.trans h.source, by rw [h.rest, h'.rest, List.append_assoc],
    by rw [h'.position, h.position, List.length_append, Nat.add_assoc]⟩

theorem Passes.length {s s' : Scanner} {cs : List Char} (h : s.Passes cs s') :
    s.rest.length = cs.length + s'.rest.length := by
  rw [h.rest, List.length_append]

theorem Passes.split {s s' : Scanner} {cs ds : List Char} (h : s.Passes (cs ++ ds) s') :
    ∃ m, s.Passes cs m ∧ m.Passes ds s' :=
  ⟨⟨s.source, ds ++ s'.rest, s.position + cs.length⟩, ⟨rfl, by rw [h.rest, List.append_assoc], rfl⟩,
    ⟨h.source, rfl, by rw [h.position, List.length_append, Nat.add_assoc]⟩⟩

theorem passes_advance {s : Scanner} {c : Char} {rest : List Char} (h : s.rest = c :: rest) : s.Passes [c] s.advance := by
  constructor <;> simp [advance, h]

theorem Passes.cons {s s' : Scanner} {c : Char} {cs : List Char} (h : s.Passes (c :: cs) s') :
    s.rest.head? = some c ∧ s.advance.Passes cs s' := by
  have hrest : s.rest = c :: (cs ++ s'.rest) := h.rest
  refine ⟨by simp [hrest], ?_⟩
  constructor
  · simp [advance, hrest, h.source]
  · simp [advance, hrest]
  · simp only [advance, hrest, h.position, List.length_cons]
    omega

theorem expect_char (s : Scanner) (c : Char) :
    s.expect c.toString =
      if s.rest.head? = some c then .ok s.advance else .error (s.complain (.mismatch s.rest.head? c.toString)) := by
  unfold expect current
  cases s.rest with
  | nil => simp
  | cons d rest => simp

end GrammarLab.Text.Scanner

namespace GrammarLab.Regex

open Text

/-! ## The grammar -/

/-- what a text can be -/
inductive Form where
  | expr
  | term
  | factor

/-- the text has the form, and is this expression -/
inductive Derives : Form → List Char → Regex → Prop
  | single {cs t} : Derives .term cs t → Derives .expr cs t
  | bar {cs ds e t} : Derives .expr cs e → Derives .term ds t → Derives .expr (cs ++ '|' :: ds) (.alt e t)
  | blank : Derives .term [] .empty
  | next {cs ds t f} : Derives .term cs t → Derives .factor ds f → Derives .term (cs ++ ds) (.seq t f)
  | letter {c} : isAlphanumeric c = true → Derives .factor [c] (.letter c.toString)
  | empty : Derives .factor ['ε'] .empty
  | group {cs e} : Derives .expr cs e → Derives .factor ('(' :: (cs ++ [')'])) e
  | star {cs f} : Derives .factor cs f → Derives .factor (cs ++ ['*']) (.star f)

theorem beginsFactor_iff {c : Char} : beginsFactor c = true ↔ c = '(' ∨ isAlphanumeric c = true ∨ c = 'ε' := by
  simp [beginsFactor, or_assoc]

/-- a factor has a first character, and a factor can begin with it -/
theorem Derives.exists_cons {cs : List Char} {f : Regex} (h : Derives .factor cs f) :
    ∃ c rest, cs = c :: rest ∧ beginsFactor c = true := by
  generalize hform : Form.factor = form at h
  induction h with
  | single | bar | blank | next => cases hform
  | letter hc => exact ⟨_, [], rfl, beginsFactor_iff.2 (.inr (.inl hc))⟩
  | empty => exact ⟨'ε', [], rfl, by decide⟩
  | group => exact ⟨'(', _, rfl, by decide⟩
  | star _ ih =>
    obtain ⟨c, rest, rfl, hc⟩ := ih hform
    exact ⟨c, rest ++ ['*'], rfl, hc⟩

/-! ## The readers without their bounds -/

/-- what has been read, and the text after it -/
def Piece.result {s : Scanner} (p : Piece s) : Regex × Scanner := (p.regex, p.after)

/-- what a reader gives, without the bound -/
def outcome {s : Scanner} (r : Except Complaint (Piece s)) : Except Complaint (Regex × Scanner) := r.map Piece.result

@[simp] theorem outcome_ok {s : Scanner} (p : Piece s) : outcome (.ok p) = .ok p.result := rfl

theorem outcome_bind {s s' : Scanner} {r : Except Complaint (Piece s)} {k : Piece s → Except Complaint (Piece s')}
    {k' : Regex × Scanner → Except Complaint (Regex × Scanner)} (h : ∀ p, outcome (k p) = k' p.result) :
    outcome (r >>= k) = outcome r >>= k' := by
  cases r with
  | error c => rfl
  | ok p => exact h p

theorem outcome_within {s s' : Scanner} {r : Except Complaint (Piece s')} (h : s'.rest.length ≤ s.rest.length) :
    outcome (do let p ← r; return p.within h) = outcome r := by
  cases r <;> rfl

theorem readStars_star (e : Regex) {s : Scanner} (h : s.rest.head? = some '*') :
    (readStars e s).result = (readStars (.star e) s.advance).result := by
  rw [readStars]
  split
  · rfl
  · next hne =>
    obtain ⟨rest, hrest⟩ := List.head?_eq_some_iff.1 h
    exact absurd hrest (hne rest)

theorem readStars_stop (e : Regex) {s : Scanner} (h : s.rest.head? ≠ some '*') : (readStars e s).result = (e, s) := by
  rw [readStars]
  split
  · next hrest => exact absurd (by rw [hrest]; rfl) h
  · rfl

theorem outcome_readFactor_letter {s : Scanner} {c : Char} (h : s.rest.head? = some c) (hc : isAlphanumeric c = true) :
    outcome (readFactor s) = .ok (readStars (.letter c.toString) s.advance).result := by
  obtain ⟨rest, hrest⟩ := List.head?_eq_some_iff.1 h
  rw [readFactor]
  split
  · next hnil => simp [hnil] at hrest
  · next hcons =>
    obtain ⟨rfl, -⟩ := List.cons.inj (hcons.symm.trans hrest)
    rw [if_pos hc, outcome_ok]

theorem outcome_readFactor_empty {s : Scanner} (h : s.rest.head? = some 'ε') :
    outcome (readFactor s) = .ok (readStars .empty s.advance).result := by
  obtain ⟨rest, hrest⟩ := List.head?_eq_some_iff.1 h
  rw [readFactor]
  split
  · next hnil => simp [hnil] at hrest
  · next hcons =>
    obtain ⟨rfl, -⟩ := List.cons.inj (hcons.symm.trans hrest)
    rw [if_neg (by decide), if_neg (by decide), if_pos rfl, outcome_ok]

theorem outcome_readFactor_group {s : Scanner} (h : s.rest.head? = some '(') :
    outcome (readFactor s) = (do
      let (e, s') ← outcome (readExpr s.advance)
      let closed ← s'.expect ")"
      return (readStars e closed).result) := by
  obtain ⟨rest, hrest⟩ := List.head?_eq_some_iff.1 h
  rw [readFactor]
  split
  · next hnil => simp [hnil] at hrest
  · next hcons =>
    obtain ⟨rfl, -⟩ := List.cons.inj (hcons.symm.trans hrest)
    rw [if_neg (by decide), if_pos rfl]
    refine outcome_bind fun e => ?_
    show _ = (do let closed ← e.after.expect ")"; return (readStars e.regex closed).result)
    unfold readClosing
    split
    · next complaint hclosing =>
      show Except.error complaint = _
      rw [hclosing]
      rfl
    · next closed hclosing =>
      show Except.ok (readStars e.regex closed).result = _
      rw [hclosing]
      rfl

theorem outcome_readFactors (t : Regex) (s : Scanner) :
    outcome (readFactors t s) =
      if s.rest.head?.any beginsFactor then do
        let (f, s') ← outcome (readFactor s)
        outcome (readFactors (.seq t f) s')
      else .ok (t, s) := by
  rw [readFactors]
  split
  · exact outcome_bind fun f => outcome_within _
  · rfl

theorem outcome_readBars (e : Regex) (s : Scanner) :
    outcome (readBars e s) =
      if s.rest.head? = some '|' then do
        let (t, s') ← outcome (readFactors .empty s.advance)
        outcome (readBars (.alt e t) s')
      else .ok (e, s) := by
  rw [readBars]
  split
  · exact outcome_bind fun t => outcome_within _
  · rfl

theorem outcome_readExpr (s : Scanner) :
    outcome (readExpr s) = (do
      let (t, s') ← outcome (readFactors .empty s)
      outcome (readBars t s')) := by
  rw [readExpr]
  exact outcome_bind fun t => outcome_within _

/-! ## What is read has the form -/

/-- an expression of the form, with the characters passed to it before, or the complaint that a group is not closed -/
def Sound (form : Form) (before : List Char) (s : Scanner) : Except Complaint (Regex × Scanner) → Prop
  | .ok (e, s') => ∃ cs, s.Passes cs s' ∧ Derives form (before ++ cs) e
  | .error c => c.source = s.source ∧ ∃ found, c.fault = .mismatch found ")"

/-- a reader that goes on where another has stopped -/
theorem Sound.trans {form : Form} {before cs : List Char} {s m : Scanner} {r : Except Complaint (Regex × Scanner)}
    (hpass : s.Passes cs m) (h : Sound form (before ++ cs) m r) : Sound form before s r := by
  cases r with
  | error c => exact ⟨h.1.trans hpass.source, h.2⟩
  | ok p =>
    obtain ⟨ds, hds, hform⟩ := h
    exact ⟨cs ++ ds, hpass.trans hds, by rwa [← List.append_assoc]⟩

theorem Sound.bind {form inner : Form} {before cs : List Char} {s m : Scanner} {r : Except Complaint (Regex × Scanner)}
    {k : Regex × Scanner → Except Complaint (Regex × Scanner)} (hpass : s.Passes cs m) (hr : Sound inner [] m r)
    (hk : ∀ ds e s', m.Passes ds s' → Derives inner ds e → Sound form (before ++ (cs ++ ds)) s' (k (e, s'))) :
    Sound form before s (r >>= k) := by
  cases r with
  | error c => exact ⟨hr.1.trans hpass.source, hr.2⟩
  | ok p =>
    obtain ⟨ds, hds, hform⟩ := hr
    exact Sound.trans (hpass.trans hds) (hk ds p.1 p.2 hds hform)

theorem readStars_sound {before : List Char} {e : Regex} (s : Scanner) (h : Derives .factor before e) :
    Sound .factor before s (.ok (readStars e s).result) := by
  by_cases hstar : s.rest.head? = some '*'
  · obtain ⟨rest, hrest⟩ := List.head?_eq_some_iff.1 hstar
    rw [readStars_star e hstar]
    exact Sound.trans (Scanner.passes_advance hrest) (readStars_sound s.advance h.star)
  · rw [readStars_stop e hstar]
    exact ⟨[], .refl s, by rwa [List.append_nil]⟩
termination_by s.rest.length
decreasing_by exact s.length_advance_lt (by simp [hrest])

mutual

theorem readFactor_sound (s : Scanner) (h : s.rest.head?.any beginsFactor = true) :
    Sound .factor [] s (outcome (readFactor s)) := by
  obtain ⟨c, hc, hbegins⟩ := (Option.any_eq_true _ _).1 h
  obtain ⟨rest, hrest⟩ := List.head?_eq_some_iff.1 hc
  have hpass : s.Passes [c] s.advance := Scanner.passes_advance hrest
  rcases beginsFactor_iff.1 hbegins with rfl | halnum | rfl
  · rw [outcome_readFactor_group hc]
    refine Sound.bind hpass (readExpr_sound s.advance) fun cs e s' _ hexpr => ?_
    show Sound _ _ s' (s'.expect (')' : Char).toString >>= fun closed => .ok (readStars e closed).result)
    rw [Scanner.expect_char]
    split
    · next hclosed =>
      obtain ⟨rest', hrest'⟩ := List.head?_eq_some_iff.1 hclosed
      exact Sound.trans (Scanner.passes_advance hrest') (readStars_sound _ hexpr.group)
    · exact ⟨rfl, _, rfl⟩
  · rw [outcome_readFactor_letter hc halnum]
    exact Sound.trans hpass (readStars_sound _ (.letter halnum))
  · rw [outcome_readFactor_empty hc]
    exact Sound.trans hpass (readStars_sound _ .empty)
termination_by (s.rest.length, 0)
decreasing_by exact Prod.Lex.left _ _ (s.length_advance_lt (by simp [hrest]))

theorem readFactors_sound {before : List Char} {t : Regex} (s : Scanner) (h : Derives .term before t) :
    Sound .term before s (outcome (readFactors t s)) := by
  rw [outcome_readFactors]
  split
  · next hbegins =>
    exact Sound.bind (.refl s) (readFactor_sound s hbegins) fun cs f s' hcs hform => readFactors_sound s' (h.next hform)
  · exact ⟨[], .refl s, by rwa [List.append_nil]⟩
termination_by (s.rest.length, 1)
decreasing_by
  · exact Prod.Lex.right _ Nat.zero_lt_one
  · obtain ⟨c, ds, rfl, -⟩ := hform.exists_cons
    exact Prod.Lex.left _ _ (by simp only [hcs.length, List.length_cons]; omega)

theorem readBars_sound {before : List Char} {e : Regex} (s : Scanner) (h : Derives .expr before e) :
    Sound .expr before s (outcome (readBars e s)) := by
  rw [outcome_readBars]
  split
  · next hbar =>
    obtain ⟨rest, hrest⟩ := List.head?_eq_some_iff.1 hbar
    have hpass : s.Passes ['|'] s.advance := Scanner.passes_advance hrest
    exact Sound.bind hpass (readFactors_sound s.advance .blank) fun cs t s' hcs hform => readBars_sound s' (h.bar hform)
  · exact ⟨[], .refl s, by rwa [List.append_nil]⟩
termination_by (s.rest.length, 2)
decreasing_by
  · exact Prod.Lex.left _ _ (s.length_advance_lt (by simp [hrest]))
  · exact Prod.Lex.left _ _ (by simp only [hpass.length, hcs.length, List.length_singleton]; omega)

theorem readExpr_sound (s : Scanner) : Sound .expr [] s (outcome (readExpr s)) := by
  rw [outcome_readExpr]
  exact Sound.bind (.refl s) (readFactors_sound s .blank) fun cs t s' hcs hform => readBars_sound s' hform.single
termination_by (s.rest.length, 3)
decreasing_by
  · exact Prod.Lex.right _ (by decide)
  · have hlength := hcs.length
    exact (Nat.lt_or_eq_of_le (by omega)).elim (Prod.Lex.left _ _) fun h => h ▸ Prod.Lex.right _ (by decide)

end

/-! ## A text of the form is read -/

/-- a text of the form is read as the expression, wherever it stands, if what follows it cannot belong to it: a reader
that comes to it is where the reader that goes on from the expression is after it -/
def Completes : Form → List Char → Regex → Prop
  | .factor, cs, f => ∀ s s', s.Passes cs s' → outcome (readFactor s) = .ok (readStars f s').result
  | .term, cs, t => ∀ s s', s.Passes cs s' → s'.rest.head? ≠ some '*' →
      outcome (readFactors .empty s) = outcome (readFactors t s')
  | .expr, cs, e => ∀ s s', s.Passes cs s' → s'.rest.head? ≠ some '*' → s'.rest.head?.any beginsFactor = false →
      outcome (readExpr s) = outcome (readBars e s')

theorem outcome_readFactors_stop (t : Regex) {s : Scanner} (h : s.rest.head?.any beginsFactor = false) :
    outcome (readFactors t s) = .ok (t, s) := by
  rw [outcome_readFactors, if_neg (by simp [h])]

theorem Derives.completes {form : Form} {cs : List Char} {e : Regex} (h : Derives form cs e) : Completes form cs e := by
  induction h with
  | @single cs t _ ih =>
    intro s s' hpass hstar hbegins
    rw [outcome_readExpr, ih s s' hpass hstar, outcome_readFactors_stop t hbegins]
    rfl
  | @bar cs ds e t _ _ ihe iht =>
    intro s s' hpass hstar hbegins
    obtain ⟨m, hcs, hbar⟩ := hpass.split
    obtain ⟨hhead, hds⟩ := hbar.cons
    rw [ihe s m hcs (by simp [hhead]) (by rw [hhead]; rfl), outcome_readBars, if_pos hhead,
      iht m.advance s' hds hstar, outcome_readFactors_stop t hbegins]
    rfl
  | blank =>
    intro s s' hpass _
    rw [hpass.eq]
  | @next cs ds t f _ hf iht ihf =>
    intro s s' hpass hstar
    obtain ⟨m, hcs, hds⟩ := hpass.split
    obtain ⟨c, rest, rfl, hc⟩ := hf.exists_cons
    have hhead : m.rest.head? = some c := hds.cons.1
    have hne : c ≠ '*' := by rintro rfl; exact absurd hc (by decide)
    rw [iht s m hcs (by simp [hhead, hne]), outcome_readFactors t m, if_pos (by simp [hhead, hc]), ihf m s' hds,
      readStars_stop f hstar]
    rfl
  | letter hc =>
    intro s s' hpass
    obtain ⟨hhead, hrest⟩ := hpass.cons
    rw [outcome_readFactor_letter hhead hc, hrest.eq]
  | empty =>
    intro s s' hpass
    obtain ⟨hhead, hrest⟩ := hpass.cons
    rw [outcome_readFactor_empty hhead, hrest.eq]
  | @group cs e _ ih =>
    intro s s' hpass
    obtain ⟨hhead, hrest⟩ := hpass.cons
    obtain ⟨m, hcs, hclosed⟩ := hrest.split
    obtain ⟨hclosing, hend⟩ := hclosed.cons
    rw [outcome_readFactor_group hhead, ih s.advance m hcs (by simp [hclosing]) (by rw [hclosing]; rfl), outcome_readBars,
      if_neg (by simp [hclosing])]
    show (m.expect (')' : Char).toString >>= fun closed => .ok (readStars e closed).result) = _
    rw [Scanner.expect_char, if_pos hclosing, hend.eq]
    rfl
  | @star cs f _ ih =>
    intro s s' hpass
    obtain ⟨m, hcs, hstar⟩ := hpass.split
    obtain ⟨hhead, hend⟩ := hstar.cons
    rw [ih s m hcs, readStars_star f hhead, hend.eq]

/-! ## Whole texts -/

theorem read_eq (source : String) :
    read source = outcome (readExpr (.ofString source)) >>= fun (e, s') =>
      match s'.rest with
      | [] => .ok e
      | c :: _ => .error (s'.complain (.unexpected c)) := by
  unfold read
  cases readExpr (.ofString source) with
  | error c => rfl
  | ok p => rfl

theorem message_ne_of_unexpected (found : Char) : (Fault.unexpected found).message ≠ "letter or '(' expected" := by
  refine fun h => ?_
  have hchars : ("unexpected '" ++ found.toString ++ "'").toList = "letter or '(' expected".toList :=
    congrArg String.toList h
  simp at hchars

theorem message_ne_of_mismatch (found : Option Char) (expected : String) :
    (Fault.mismatch found expected).message ≠ "letter or '(' expected" := by
  refine fun h => ?_
  cases found with
  | none =>
    have hchars : ("end of input found when expecting '" ++ expected ++ "'").toList = "letter or '(' expected".toList :=
      congrArg String.toList h
    simp at hchars
  | some c =>
    have hchars : ("'" ++ c.toString ++ "' found when expecting '" ++ expected ++ "'").toList =
        "letter or '(' expected".toList := congrArg String.toList h
    simp at hchars

theorem read_of_derives {source : String} {e : Regex} (h : Derives .expr source.toList e) : read source = .ok e := by
  have hpass : (Scanner.ofString source).Passes source.toList ⟨source, [], source.toList.length⟩ :=
    ⟨rfl, (List.append_nil _).symm, (Nat.zero_add _).symm⟩
  rw [read_eq, h.completes _ _ hpass (by simp) (by simp), outcome_readBars, if_neg (by simp)]
  rfl

theorem read_cases (source : String) :
    (∃ e, read source = .ok e ∧ Derives .expr source.toList e) ∨
      ∃ c, read source = .error c ∧ c.source = source ∧
        ((∃ found, c.fault = .unexpected found) ∨ ∃ found, c.fault = .mismatch found ")") := by
  have hsound := readExpr_sound (.ofString source)
  rw [read_eq]
  cases hread : outcome (readExpr (.ofString source)) with
  | error c =>
    rw [hread] at hsound
    exact .inr ⟨c, rfl, hsound.1, .inr hsound.2⟩
  | ok p =>
    obtain ⟨e, s'⟩ := p
    rw [hread] at hsound
    obtain ⟨cs, hcs, hform⟩ := hsound
    have hsource : source.toList = cs ++ s'.rest := hcs.rest
    cases hrest : s'.rest with
    | nil => exact .inl ⟨e, by simp [hrest, bind, Except.bind], by rwa [hsource, hrest, List.append_nil]⟩
    | cons c rest => exact .inr ⟨s'.complain (.unexpected c), by simp [hrest, bind, Except.bind], hcs.source, .inl ⟨c, rfl⟩⟩

/-- a text is an expression in one way -/
theorem Derives.unique {cs : List Char} {e e' : Regex} (h : Derives .expr cs e) (h' : Derives .expr cs e') : e = e' := by
  have hread : read (String.ofList cs) = .ok e := read_of_derives (by rwa [String.toList_ofList])
  have hread' : read (String.ofList cs) = .ok e' := read_of_derives (by rwa [String.toList_ofList])
  exact Except.ok.inj (hread.symm.trans hread')

/-- **The reader is exact.** A text is read as an expression exactly if the grammar makes it that expression. Every other
text is refused, with a complaint about that text: there is a character that cannot stand where it is, or something else
than a closing parenthesis where a group has to end. That a factor should begin and does not is never what is wrong. -/
theorem read_exact (source : String) :
    (∀ e, read source = .ok e ↔ Derives .expr source.toList e) ∧
    ((∃ e, read source = .ok e) ∨ ∃ c, read source = .error c ∧ c.source = source ∧
      ((∃ found, c.fault = .unexpected found) ∨ ∃ found, c.fault = .mismatch found ")") ∧
      c.message ≠ "letter or '(' expected") := by
  rcases read_cases source with ⟨e, hread, hform⟩ | ⟨c, hread, hsource, hfault⟩
  · refine ⟨fun e' => ⟨fun h => ?_, read_of_derives⟩, .inl ⟨e, hread⟩⟩
    obtain rfl : e = e' := Except.ok.inj (hread.symm.trans h)
    exact hform
  · refine ⟨fun e => ⟨fun h => ?_, read_of_derives⟩, .inr ⟨c, hread, hsource, hfault, ?_⟩⟩
    · rw [hread] at h
      cases h
    · rcases hfault with ⟨found, hfound⟩ | ⟨found, hfound⟩
      · rw [Complaint.message, hfound]
        exact message_ne_of_unexpected found
      · rw [Complaint.message, hfound]
        exact message_ne_of_mismatch found ")"

end GrammarLab.Regex
