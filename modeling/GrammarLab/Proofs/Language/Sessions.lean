/-
Languages can be read again: whatever has been done in a session, a level read is the level of a fresh copy read alone.

A `Ledger` is the session without its store: for every language the expression that it was made as, for every reader its
language and how many steps it has made. It says which level an action asks for (`asked`) and never looks at a level.
`Session.Keeps` ties the two together: the store is explained by the levels of the expressions, and every reader has come
to the level that its steps say.
- `Session.Keeps.act`: one action keeps this, answers what it is asked for, and only adds to what is known;
- `Session.Keeps.run`: so does a script, by induction on it;
- `replay`: every answer in a script is the answer of a copy in which nothing was read before, and so is everything known.
-/
import GrammarLab.Language.Session
import GrammarLab.Proofs.Language.Reading

namespace GrammarLab

namespace Language

/-! ## What a session has done -/

/-- an operator uses the languages before number `n` only -/
def Operator.Fits (n : Nat) : Operator → Prop
  | .empty => True
  | .letter _ => True
  | .union a b => a < n ∧ b < n
  | .seq a b => a < n ∧ b < n
  | .star a => a < n

/-- the expression of a language that is made of others -/
def Operator.toRegex (languages : Array Regex) : Operator → Regex
  | .empty => .empty
  | .letter s => .letter s
  | .union a b => .alt (languages[a]?.getD .empty) (languages[b]?.getD .empty)
  | .seq a b => .seq (languages[a]?.getD .empty) (languages[b]?.getD .empty)
  | .star a => .star (languages[a]?.getD .empty)

/-- the expressions of the languages made, and each reader's language and number of steps -/
structure Ledger where
  languages : Array Regex
  readers : Array (Nat × Nat)

namespace Ledger

def blank : Ledger := ⟨#[], #[]⟩

/-- an action uses languages and readers that are there -/
def Fits (l : Ledger) : Action → Prop
  | .make operator => operator.Fits l.languages.size
  | .level i _ => i < l.languages.size
  | .start i => i < l.languages.size
  | .step r => r < l.readers.size

/-- the ledger after an action -/
def enter (l : Ledger) : Action → Ledger
  | .make operator => { l with languages := l.languages.push (operator.toRegex l.languages) }
  | .level _ _ => l
  | .start i => { l with readers := l.readers.push (i, 0) }
  | .step r => { l with readers := l.readers.modify r fun reader => (reader.1, reader.2 + 1) }

/-- the language and the number of the level that an action reads: each step of a reader reads the level after the last -/
def asked (l : Ledger) : Action → Option (Nat × Nat)
  | .make _ => none
  | .level i n => some (i, n)
  | .start _ => none
  | .step r => l.readers[r]?

/-- every action of a script uses what is there when its turn comes -/
def Admits (l : Ledger) : List Action → Prop
  | [] => True
  | action :: script => l.Fits action ∧ (l.enter action).Admits script

/-- the ledger after a script -/
def enterAll (l : Ledger) (script : List Action) : Ledger := script.foldl enter l

/-- the levels of the expressions -/
def levels (l : Ledger) (i : Nat) : Levels := (l.languages[i]?.map Regex.levels).getD fun _ => none

end Ledger

/-- an action that makes a language -/
def Action.isMake : Action → Bool
  | .make _ => true
  | _ => false

/-- the languages of a script, made again and not read -/
def copy (script : List Action) : Store := (Session.blank.run (script.filter Action.isMake)).store

/-- level `n` of a language, read alone and from the start: after each level before it, and after nothing else -/
def Store.alone (store : Store) (i n : Nat) : Option StringSet := (store.take i (n + 1)).1[n]?

/-! ## Reading from the start -/

variable {m : Nat → Levels} {s t : Store} {i j k n : Nat}

theorem getElem?_takeFrom (h : Explained m s) (hj : j < n) : (s.takeFrom i k n).1[j]? = m i (k + j) := by
  induction n generalizing k j s with
  | zero => exact absurd hj (Nat.not_lt_zero j)
  | succ n ih =>
    obtain ⟨hlevel, hadv⟩ := level_spec h i k
    unfold Store.takeFrom
    cases hread : s.level i k with
    | mk level t =>
      rw [hread] at hlevel hadv
      cases level with
      | none =>
        have hnone : m i (k + j) = none := (h.closed i).none_of_le hlevel.symm (Nat.le_add_right k j)
        simp [hnone]
      | some l =>
        cases j with
        | zero => simpa using hlevel
        | succ j =>
          have hrest := ih (k := k + 1) hadv.explained (Nat.lt_of_succ_lt_succ hj)
          rw [Nat.add_right_comm, Nat.add_assoc] at hrest
          simpa using hrest

theorem alone_eq (h : Explained m s) (i n : Nat) : s.alone i n = m i n := by
  rw [Store.alone, Store.take, getElem?_takeFrom h (Nat.lt_succ_self n), Nat.zero_add]

/-- what is known of one language twice is known of it once and more -/
theorem known_prefix (hs : Explained m s) (ht : Explained m t) (hsize : (s.known i).size ≤ (t.known i).size) :
    (s.known i).toList <+: (t.known i).toList := by
  rw [List.prefix_iff_getElem?]
  intro n hn
  have hn' : n < (s.known i).size := hn
  have hsn : m i n = some (s.known i)[n] := hs.known (Array.getElem?_eq_getElem hn')
  have htn : m i n = some (t.known i)[n] := ht.known (Array.getElem?_eq_getElem (Nat.lt_of_lt_of_le hn' hsize))
  rw [Array.getElem?_toList, Array.getElem?_eq_getElem (Nat.lt_of_lt_of_le hn' hsize), ← htn, hsn, Array.getElem_toList]

/-! ## Making -/

namespace Ledger

variable {l l' : Ledger} {e : Regex}

theorem levels_of_getElem? (h : l.languages[i]? = some e) : l.levels i = e.levels := by
  rw [levels, h]
  rfl

/-- one language more -/
theorem levels_push (l : Ledger) (e : Regex) :
    { l with languages := l.languages.push e : Ledger }.levels = Function.update l.levels l.languages.size e.levels := by
  funext i
  by_cases hi : i = l.languages.size
  · subst hi
    rw [Function.update_self]
    exact levels_of_getElem? Array.getElem?_push_size
  · rw [Function.update_of_ne hi, levels, levels, Array.getElem?_push, if_neg hi]

/-- the levels of a language that is there -/
theorem levels_of_lt (hi : i < l.languages.size) : l.levels i = ((l.languages[i]?).getD .empty).levels := by
  rw [levels_of_getElem? (Array.getElem?_eq_getElem hi), Array.getElem?_eq_getElem hi]
  rfl

end Ledger

/-- an operator makes a language with the levels of its expression -/
theorem explained_make {l : Ledger} {operator : Operator} (h : Explained l.levels s) (hsize : s.size = l.languages.size)
    (hfits : operator.Fits l.languages.size) :
    Explained (l.enter (.make operator)).levels (s.make operator).2 := by
  have hlevels : (l.enter (.make operator)).levels =
      Function.update l.levels s.size (operator.toRegex l.languages).levels := by
    rw [hsize]
    exact l.levels_push _
  have hself := Function.update_self s.size (operator.toRegex l.languages).levels l.levels
  have hother : ∀ i < l.languages.size, Function.update l.levels s.size (operator.toRegex l.languages).levels i =
      ((l.languages[i]?).getD .empty).levels := by
    intro i hi
    rw [Function.update_of_ne (by omega), Ledger.levels_of_lt hi]
  have hclosed := (operator.toRegex l.languages).closed_levels
  rw [hlevels]
  cases operator with
  | empty =>
    apply h.add hclosed
    intro j
    rw [hself, Nat.zero_add]
    rfl
  | letter c =>
    apply h.add hclosed
    intro j
    rw [hself, Nat.zero_add]
    rfl
  | union a b =>
    obtain ⟨ha, hb⟩ := hfits
    apply h.add hclosed
    apply holds_union (hsize ▸ ha) (hsize ▸ hb)
    rw [hself, hother a ha, hother b hb]
    rfl
  | seq a b =>
    obtain ⟨ha, hb⟩ := hfits
    apply h.add hclosed
    apply holds_seq (hsize ▸ ha) (hsize ▸ hb)
    rw [hself, hother a ha, hother b hb]
    rfl
  | star a =>
    have ha : a < l.languages.size := hfits
    apply h.add hclosed
    refine ⟨rfl, hsize ▸ ha, ?_⟩
    rw [hself, hother a ha]
    rfl

theorem known_of_size_le (hi : s.size ≤ i) : s.known i = #[] := by
  rw [Store.known, Array.getElem?_eq_none hi]
  rfl

theorem size_make (s : Store) (operator : Operator) : (s.make operator).2.size = s.size + 1 := by
  cases operator <;> exact Array.size_push _

/-- making a language changes nothing about those before it -/
theorem known_make (s : Store) (operator : Operator) (i : Nat) : (s.make operator).2.known i = s.known i := by
  have hadd : ∀ (source : Source) (p : Nat), (s.add source p).2.known i = s.known i := by
    intro source p
    by_cases hi : i = s.size
    · subst hi
      rw [known_of_getElem? (getElem?_add_self source p), known_of_size_le (Nat.le_refl _)]
    · exact known_congr (getElem?_add_of_ne hi source p)
  cases operator <;> exact hadd _ _

/-! ## One action -/

/-- the store has the levels of the expressions, and every reader has come as far as it has been led -/
structure Session.Keeps (l : Ledger) (s : Session) : Prop where
  size_eq : s.store.size = l.languages.size
  explained : Explained l.levels s.store
  readers_size : s.readers.size = l.readers.size
  reader_at : ∀ {r : Nat} {reader : Reader} {i k : Nat}, s.readers[r]? = some reader → l.readers[r]? = some (i, k) →
    reader.language = i ∧ i < l.languages.size ∧ reader.At l.levels k

theorem Session.keeps_blank : Session.blank.Keeps .blank where
  size_eq := rfl
  explained := explained_empty
  readers_size := rfl
  reader_at := fun h => by simp [Session.blank] at h

namespace Session.Keeps

variable {l : Ledger} {s : Session}

/-- what a reading changes -/
theorem advance (h : s.Keeps l) (hadv : Advances l.levels i s.store t) : { s with store := t : Session }.Keeps l where
  size_eq := hadv.size_eq.trans h.size_eq
  explained := hadv.explained
  readers_size := h.readers_size
  reader_at := h.reader_at

theorem make (h : s.Keeps l) {operator : Operator} (hfits : operator.Fits l.languages.size) :
    { s with store := (s.store.make operator).2 : Session }.Keeps (l.enter (.make operator)) where
  size_eq := by rw [size_make, h.size_eq, Ledger.enter, Array.size_push]
  explained := explained_make h.explained h.size_eq hfits
  readers_size := h.readers_size
  reader_at := by
    intro r reader i k hr hl
    obtain ⟨hlanguage, hi, hat⟩ := h.reader_at hr hl
    have hlevels : (l.enter (.make operator)).levels reader.language = l.levels reader.language := by
      rw [Ledger.enter, l.levels_push, Function.update_of_ne (by omega)]
    refine ⟨hlanguage, ?_, hat.congr hlevels⟩
    rw [Ledger.enter, Array.size_push]
    exact Nat.lt_succ_of_lt hi

theorem start (h : s.Keeps l) (hi : i < l.languages.size) :
    { s with readers := s.readers.push ⟨i, 0⟩ : Session }.Keeps (l.enter (.start i)) where
  size_eq := h.size_eq
  explained := h.explained
  readers_size := by rw [Ledger.enter, Array.size_push, Array.size_push, h.readers_size]
  reader_at := by
    intro r reader j k hr hl
    rw [Ledger.enter, Array.getElem?_push] at hl
    rw [Array.getElem?_push, h.readers_size] at hr
    split at hl
    next hnew =>
      rw [if_pos hnew] at hr
      cases hr
      cases hl
      exact ⟨rfl, hi, Reader.at_of_eq rfl⟩
    next hold =>
      rw [if_neg hold] at hr
      exact h.reader_at hr hl

theorem step {r : Nat} {reader reader' : Reader} (h : s.Keeps l) (hr : s.readers[r]? = some reader)
    (hl : l.readers[r]? = some (i, k)) (hadv : Advances l.levels j s.store t) (hlanguage : reader'.language = reader.language)
    (hat : reader'.At l.levels (k + 1)) :
    { store := t, readers := s.readers.setIfInBounds r reader' : Session }.Keeps (l.enter (.step r)) where
  size_eq := hadv.size_eq.trans h.size_eq
  explained := hadv.explained
  readers_size := by rw [Ledger.enter, Array.size_setIfInBounds, Array.size_modify, h.readers_size]
  reader_at := by
    intro r' reader'' i' k' hr' hl'
    rw [Ledger.enter, Array.getElem?_modify] at hl'
    rw [Array.getElem?_setIfInBounds] at hr'
    obtain ⟨hsame, hi, -⟩ := h.reader_at hr hl
    split at hl'
    next heq =>
      subst heq
      have hbound := (Array.getElem?_eq_some_iff.1 hr).1
      rw [if_pos rfl, if_pos hbound] at hr'
      rw [hl] at hl'
      cases hr'
      cases hl'
      exact ⟨hlanguage.trans hsame, hi, hat⟩
    next hne =>
      rw [if_neg hne] at hr'
      exact h.reader_at hr' hl'

/-- **One action** keeps session and ledger together. If it reads, it reads what the expression of the language has there;
what was known of any language is known after it, in its place. -/
theorem act {action : Action} (h : s.Keeps l) (hfits : l.Fits action) :
    (s.act action).2.Keeps (l.enter action) ∧ (∀ i k, l.asked action = some (i, k) → (s.act action).1 = l.levels i k) ∧
      ∀ i, (s.store.known i).toList <+: ((s.act action).2.store.known i).toList := by
  cases action with
  | make operator =>
    refine ⟨h.make hfits, fun i k hasked => by simp [Ledger.asked] at hasked, ?_⟩
    intro i
    simp only [Session.act, known_make]
    exact List.prefix_refl _
  | level i n =>
    obtain ⟨hlevel, hadv⟩ := level_spec h.explained i n
    refine ⟨h.advance hadv, ?_, fun j => known_prefix h.explained hadv.explained (hadv.known_le j)⟩
    intro i' k hasked
    cases hasked
    exact hlevel
  | start i =>
    exact ⟨h.start hfits, fun i k hasked => by simp [Ledger.asked] at hasked, fun i => List.prefix_refl _⟩
  | step r =>
    have hr : r < l.readers.size := hfits
    obtain ⟨⟨i, k⟩, hl⟩ : ∃ entry, l.readers[r]? = some entry := ⟨_, Array.getElem?_eq_getElem hr⟩
    obtain ⟨reader, hreader⟩ : ∃ reader, s.readers[r]? = some reader :=
      ⟨_, Array.getElem?_eq_getElem (by rw [h.readers_size]; exact hr)⟩
    obtain ⟨hlanguage, hi, hat⟩ := h.reader_at hreader hl
    obtain ⟨reader', t, hnext, hadv, hlanguage', hat'⟩ := next_spec h.explained hat
    simp only [Session.act, hreader, hnext]
    refine ⟨h.step hreader hl hadv hlanguage' hat', ?_, fun j => known_prefix h.explained hadv.explained (hadv.known_le j)⟩
    intro i' k' hasked
    rw [Ledger.asked, hl] at hasked
    cases hasked
    rw [hlanguage]

/-! ## A script -/

theorem run {script : List Action} (h : s.Keeps l) (hadmits : l.Admits script) :
    (s.run script).Keeps (l.enterAll script) := by
  induction script generalizing s l with
  | nil => exact h
  | cons action script ih => exact ih (h.act hadmits.1).1 hadmits.2

end Session.Keeps

namespace Ledger

variable {l l' : Ledger} {before after script : List Action} {e : Regex}

theorem admits_append : l.Admits (before ++ after) ↔ l.Admits before ∧ (l.enterAll before).Admits after := by
  induction before generalizing l with
  | nil => simp [Admits, enterAll]
  | cons action before ih =>
    simp only [List.cons_append, Admits, ih, and_assoc]
    rfl

theorem enterAll_append : l.enterAll (before ++ after) = (l.enterAll before).enterAll after := List.foldl_append

/-- a language that is there stays -/
theorem getElem?_languages_enterAll (h : l.languages[i]? = some e) : (l.enterAll script).languages[i]? = some e := by
  induction script generalizing l with
  | nil => exact h
  | cons action script ih =>
    apply ih
    cases action with
    | make operator =>
      have hlt := (Array.getElem?_eq_some_iff.1 h).1
      rw [enter, Array.getElem?_push, if_neg (Nat.ne_of_lt hlt), h]
    | level i n => exact h
    | start i => exact h
    | step r => exact h

/-- the same languages are made if nothing is read -/
theorem admits_filter_isMake (h : l.Admits script) (hl : l'.languages = l.languages) :
    l'.Admits (script.filter Action.isMake) ∧
      (l'.enterAll (script.filter Action.isMake)).languages = (l.enterAll script).languages := by
  induction script generalizing l l' with
  | nil => exact ⟨trivial, hl⟩
  | cons action script ih =>
    obtain ⟨hfits, hscript⟩ := h
    cases action with
    | make operator =>
      have hmade : (l'.enter (.make operator)).languages = (l.enter (.make operator)).languages := by
        rw [enter, enter, hl]
      obtain ⟨hadmits, hsame⟩ := ih hscript hmade
      refine ⟨⟨?_, hadmits⟩, hsame⟩
      unfold Fits at hfits ⊢
      rwa [hl]
    | level i n => exact ih hscript hl
    | start i => exact ih hscript hl
    | step r => exact ih hscript hl

theorem fits_of_asked {action : Action} (hfits : l.Fits action) {s : Session} (h : s.Keeps l)
    (hasked : l.asked action = some (i, k)) : i < l.languages.size := by
  cases action with
  | make operator => simp [asked] at hasked
  | level j n =>
    cases hasked
    exact hfits
  | start j => simp [asked] at hasked
  | step r =>
    have hr : r < s.readers.size := by rw [h.readers_size]; exact hfits
    exact (h.reader_at (Array.getElem?_eq_getElem hr) hasked).2.1

end Ledger

/-! ## Reading again -/

section
variable {before after : List Action} {action : Action}

/-- a language of a script is the same in a copy -/
theorem copy_alone_eq (h : Ledger.blank.Admits (before ++ after)) (hi : i < (Ledger.blank.enterAll before).languages.size)
    (k : Nat) : (copy (before ++ after)).alone i k = (Ledger.blank.enterAll before).levels i k := by
  obtain ⟨hcopied, hsame⟩ := Ledger.admits_filter_isMake h rfl
  have hcopy := Session.keeps_blank.run hcopied
  have hlanguage := Array.getElem?_eq_getElem hi
  have hstays : ((Ledger.blank.enterAll before).enterAll after).languages[i]? = _ :=
    Ledger.getElem?_languages_enterAll hlanguage
  rw [← Ledger.enterAll_append, ← hsame] at hstays
  calc (copy (before ++ after)).alone i k
      = (Ledger.blank.enterAll ((before ++ after).filter Action.isMake)).levels i k := alone_eq hcopy.explained i k
    _ = (Ledger.blank.enterAll before).levels i k := by
      rw [Ledger.levels_of_getElem? hstays, Ledger.levels_of_getElem? hlanguage]

/-- **Languages can be read again.** Wherever an action stands in a script, the level that it reads is that of a copy of
the languages, read alone and from the start; it is also that of the expression of the language, in which nothing is
shared. What was known of any language before the action is known after it, in its place, and what is known of a language
at any number is the level of that number of the copy. -/
theorem replay (before after : List Action) (action : Action)
    (hadmits : Ledger.blank.Admits (before ++ action :: after)) :
    let l := Ledger.blank.enterAll before
    let s := Session.blank.run before
    let t := (s.act action).2
    (∀ i k, l.asked action = some (i, k) →
      (s.act action).1 = (copy (before ++ action :: after)).alone i k ∧
        ∃ e, l.languages[i]? = some e ∧ (s.act action).1 = (Store.addRegex #[] e).2.alone (Store.addRegex #[] e).1 k) ∧
    (∀ i, (s.store.known i).toList <+: (t.store.known i).toList) ∧
    ∀ i k level, (t.store.known i)[k]? = some level → (copy (before ++ action :: after)).alone i k = some level := by
  intro l s t
  obtain ⟨hbefore, hfits, -⟩ := Ledger.admits_append.1 hadmits
  have hkeeps : s.Keeps l := Session.keeps_blank.run hbefore
  obtain ⟨hkeeps', hanswer, hprefix⟩ := hkeeps.act hfits
  refine ⟨?_, hprefix, ?_⟩
  · intro i k hasked
    have hi := Ledger.fits_of_asked hfits hkeeps hasked
    have hlanguage := Array.getElem?_eq_getElem hi
    obtain ⟨m, hmade⟩ := made_addRegex l.languages[i] _ _ explained_empty
    rw [hanswer i k hasked]
    refine ⟨(copy_alone_eq hadmits hi k).symm, _, hlanguage, ?_⟩
    rw [alone_eq hmade.explained, hmade.levels_eq, Ledger.levels_of_getElem? hlanguage]
  · intro i k level hknown
    have hsplit : before ++ action :: after = (before ++ [action]) ++ after := by simp
    have hlater : Ledger.blank.enterAll (before ++ [action]) = l.enter action := Ledger.enterAll_append
    have hi : i < (l.enter action).languages.size := by
      rw [← hkeeps'.size_eq]
      by_contra hnot
      rw [known_of_size_le (Nat.not_lt.1 hnot)] at hknown
      simp at hknown
    rw [hsplit] at hadmits ⊢
    rw [copy_alone_eq hadmits (hlater ▸ hi), hlater]
    exact hkeeps'.explained.known hknown

end

/-- a letter before any number of it, twice the same language; two readers, and levels read in between -/
def sharedSample : List Action :=
  [.make (.letter "a"), .make (.star 0), .make (.seq 0 1), .make (.union 2 2), .start 3, .start 1, .step 0, .level 3 2,
    .step 1, .step 0]

/-- the third step of the first reader, after its language has been read by number and the repetition by another -/
theorem replay_shared :
    Ledger.blank.Admits (sharedSample ++ .step 0 :: [.level 1 1]) ∧
      (Ledger.blank.enterAll sharedSample).asked (.step 0) = some (3, 2) ∧
      ((Session.blank.run sharedSample).act (.step 0)).1 =
        (copy (sharedSample ++ .step 0 :: [.level 1 1])).alone 3 2 ∧
      (copy (sharedSample ++ .step 0 :: [.level 1 1])).alone 3 2 = some ["aa"] := by
  have hadmits : Ledger.blank.Admits (sharedSample ++ .step 0 :: [.level 1 1]) := by
    simp [sharedSample, Ledger.Admits, Ledger.Fits, Ledger.enter, Ledger.blank, Operator.Fits]
  have hasked : (Ledger.blank.enterAll sharedSample).asked (.step 0) = some (3, 2) := by
    simp [sharedSample, Ledger.enterAll, Ledger.enter, Ledger.asked, Ledger.blank]
  exact ⟨hadmits, hasked, ((replay _ _ _ hadmits).1 3 2 hasked).1, by decide +kernel⟩

end Language

end GrammarLab
