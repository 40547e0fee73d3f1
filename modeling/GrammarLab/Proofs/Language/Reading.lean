/-
Reading languages from a store: every level read is the level that the ways of making a language give.

`Explained m store` is the invariant: what is known of language `i` are levels of `m i`, a language has ended only where
`m i` does, and the source of a language gives just the levels of `m i` that are not known yet (`Source.Holds`). For a source
that reads other languages this says where its readers are (`Reader.At`) and what it has collected from them (`Collects`).
`Advances` is what a reading may change, `Reached` what it must achieve.
- `pass_spec`: a reader that has come to level `k` gives it and has come to level `k + 1`;
- `record_spec`, `pull_spec`: one more level is taken right, and the source keeps step with what is known;
- `fill_spec`: so are all that are asked for, by induction on the number of the language;
- `made_addRegex`: the language made of an expression has the levels of the expression.
-/
import GrammarLab.Proofs.Language.Levels

namespace GrammarLab

namespace Language

/-! ## What a store means -/

/-- a reader that is to read level `k` of its language next, or has found no more levels before -/
structure Reader.At (m : Nat → Levels) (k : Nat) (r : Reader) : Prop where
  position_le : r.position ≤ k
  stopped : r.position < k → m r.language r.position = none

/-- the levels of a language below `n`, as many as there are -/
def Collects (f : Levels) (n : Nat) (levels : Array StringSet) : Prop := ∀ j, levels[j]? = if j < n then f j else none

/-- the diagonals of two languages from number `n` on are the levels of language `i` from `n + c` on; the first language is
read from level `c` on, and of its own levels language `i` needs only earlier ones -/
structure Convolves (m : Nat → Levels) (i c n : Nat) (a b : Reader) (xs ys : Array StringSet) : Prop where
  first_lt : a.language < i
  second_lt : b.language < i ∨ b.language = i ∧ 0 < c
  first_at : a.At m (n + c)
  second_at : b.At m n
  first_levels : Collects (fun j => m a.language (j + c)) n xs
  second_levels : Collects (m b.language) n ys
  levels : ∀ j, m i (j + c) = diagonal (fun j => m a.language (j + c)) (m b.language) j

/-- a source gives the levels of language `i` from level `k` on, and uses earlier languages only -/
def Source.Holds (m : Nat → Levels) (i k : Nat) : Source → Prop
  | .listed levels => ∀ j, m i (k + j) = levels[j]?
  | .union a b => (a.language < i ∧ a.At m k) ∧ (b.language < i ∧ b.At m k) ∧ m i = (m a.language).union (m b.language)
  | .seq n a b xs ys => ∃ c, k = n + c ∧ Convolves m i c n a b xs ys
  | .star a => k = 0 ∧ a < i ∧ m i = (m a).star

/-- what is known of the languages of a store are the levels `m`, and the sources give the others -/
structure Explained (m : Nat → Levels) (store : Store) : Prop where
  closed : ∀ i, (m i).Closed
  source : ∀ {i} {cell : Cell}, store[i]? = some cell → cell.ended = false → cell.source.Holds m i cell.known.size
  known : ∀ {i n l}, (store.known i)[n]? = some l → m i n = some l
  ended : ∀ {i}, store.ended i = true → m i (store.known i).size = none

/-- nothing more about the levels of a language up to `n` can be found out -/
def Reached (store : Store) (i n : Nat) : Prop := n < (store.known i).size ∨ store.ended i = true

/-- a store after reading languages up to `i` -/
structure Advances (m : Nat → Levels) (i : Nat) (s t : Store) : Prop where
  explained : Explained m t
  size_eq : t.size = s.size
  above : ∀ j : Nat, i < j → t[j]? = s[j]?
  known_le : ∀ j, (s.known j).size ≤ (t.known j).size
  ended : ∀ j, s.ended j = true → t.ended j = true

variable {m : Nat → Levels} {s t u : Store} {i j k n : Nat}

theorem known_congr (h : t[i]? = s[i]?) : t.known i = s.known i := by rw [Store.known, Store.known, h]

theorem ended_congr (h : t[i]? = s[i]?) : t.ended i = s.ended i := by rw [Store.ended, Store.ended, h]

theorem known_of_getElem? {cell : Cell} (h : s[i]? = some cell) : s.known i = cell.known := by
  rw [Store.known, h]
  rfl

theorem ended_of_getElem? {cell : Cell} (h : s[i]? = some cell) : s.ended i = cell.ended := by
  rw [Store.ended, h]
  rfl

/-- what has been reached is right, whether there or not -/
theorem Explained.known_eq (h : Explained m s) (hr : Reached s i k) : (s.known i)[k]? = m i k := by
  cases hk : (s.known i)[k]? with
  | some l => exact (h.known hk).symm
  | none =>
    have hsize := Array.getElem?_eq_none_iff.1 hk
    have hended := hr.resolve_left (Nat.not_lt.2 hsize)
    exact ((h.closed i).none_of_le (h.ended hended) hsize).symm

namespace Advances

theorem refl (h : Explained m s) : Advances m i s s :=
  ⟨h, rfl, fun _ _ => rfl, fun _ => Nat.le_refl _, fun _ => id⟩

theorem trans (h : Advances m i s t) (h' : Advances m i t u) : Advances m i s u where
  explained := h'.explained
  size_eq := h'.size_eq.trans h.size_eq
  above := fun j hj => (h'.above j hj).trans (h.above j hj)
  known_le := fun j => Nat.le_trans (h.known_le j) (h'.known_le j)
  ended := fun j hj => h'.ended j (h.ended j hj)

theorem mono (h : Advances m i s t) (hij : i ≤ j) : Advances m j s t :=
  { h with above := fun k hk => h.above k (Nat.lt_of_le_of_lt hij hk) }

end Advances

/-! ## Readers -/

theorem Reader.at_of_eq {r : Reader} (h : r.position = k) : r.At m k :=
  ⟨Nat.le_of_eq h, fun hlt => absurd h (Nat.ne_of_lt hlt)⟩

theorem Reader.At.congr {m' : Nat → Levels} {r : Reader} (h : r.At m k) (heq : m' r.language = m r.language) : r.At m' k :=
  ⟨h.position_le, fun hlt => heq ▸ h.stopped hlt⟩

theorem Reader.At.level_eq {r : Reader} (h : r.At m k) (hm : (m r.language).Closed) :
    m r.language r.position = m r.language k := by
  rcases Nat.lt_or_eq_of_le h.position_le with hlt | heq
  · rw [h.stopped hlt, hm.none_of_le (h.stopped hlt) h.position_le]
  · rw [heq]

/-- a reader that has come to level `k` gives it, if all before it is known, and goes on to the next -/
theorem pass_spec {r : Reader} (h : Explained m s) (hat : r.At m k) (hr : Reached s r.language r.position) :
    (s.pass r).1 = m r.language k ∧ (s.pass r).2.language = r.language ∧ (s.pass r).2.At m (k + 1) := by
  have hknown := h.known_eq hr
  have hlevel := hat.level_eq (h.closed _)
  unfold Store.pass
  cases hm : m r.language r.position with
  | none =>
    rw [hknown, hm]
    exact ⟨by rw [← hlevel, hm], rfl, Nat.le_succ_of_le hat.position_le, fun _ => hm⟩
  | some l =>
    rw [hknown, hm]
    have hposition : r.position = k := (Nat.lt_or_eq_of_le hat.position_le).resolve_left fun hlt => by
      rw [hat.stopped hlt] at hm
      cases hm
    exact ⟨by rw [← hlevel, hm], rfl, Reader.at_of_eq (congrArg (· + 1) hposition)⟩

/-! ## What has been collected -/

theorem collects_empty (f : Levels) : Collects f 0 #[] := fun _ => rfl

theorem Collects.getElem?_eq {f : Levels} {levels : Array StringSet} (h : Collects f n levels) (hk : k < n) :
    levels[k]? = f k := by
  rw [h k, if_pos hk]

theorem Collects.size_eq {f : Levels} {levels : Array StringSet} {l : StringSet} (h : Collects f n levels)
    (hf : f.Closed) (hn : f n = some l) : levels.size = n := by
  have hle : levels.size ≤ n := Array.getElem?_eq_none_iff.1 (by rw [h n, if_neg (Nat.lt_irrefl n)])
  refine (Nat.lt_or_eq_of_le hle).resolve_left fun hlt => ?_
  have hnone : f levels.size = none := by
    rw [← h.getElem?_eq hlt]
    exact Array.getElem?_eq_none (Nat.le_refl _)
  rw [hf.none_of_le hnone hle] at hn
  cases hn

theorem Collects.collect {f : Levels} {levels : Array StringSet} (h : Collects f n levels) (hf : f.Closed) :
    Collects f (n + 1) (Store.collect levels (f n)) := by
  intro j
  cases hn : f n with
  | none =>
    rw [Store.collect, h j]
    rcases Nat.lt_trichotomy j n with hlt | rfl | hgt
    · rw [if_pos hlt, if_pos (Nat.lt_succ_of_lt hlt)]
    · rw [if_neg (Nat.lt_irrefl j), if_pos (Nat.lt_succ_self j), hn]
    · rw [if_neg (by omega), if_neg (by omega)]
  | some l =>
    rw [Store.collect, Array.getElem?_push, h.size_eq hf hn, h j]
    rcases Nat.lt_trichotomy j n with hlt | rfl | hgt
    · rw [if_neg (Nat.ne_of_lt hlt), if_pos hlt, if_pos (Nat.lt_succ_of_lt hlt)]
    · rw [if_pos rfl, if_pos (Nat.lt_succ_self j), hn]
    · rw [if_neg (by omega), if_neg (by omega), if_neg (by omega)]

/-! ## One more level -/

theorem getElem?_record_of_ne (hj : j ≠ i) (level : Option StringSet) (source : Source) :
    (s.record i level source)[j]? = s[j]? := by
  rw [Store.record, Array.getElem?_modify, if_neg hj.symm]

theorem getElem?_record_some {cell : Cell} (h : s[i]? = some cell) (l : StringSet) (source : Source) :
    (s.record i (some l) source)[i]? = some { cell with source, known := cell.known.push l } := by
  rw [Store.record, Array.getElem?_modify, if_pos rfl, h]
  rfl

theorem getElem?_record_none {cell : Cell} (h : s[i]? = some cell) (source : Source) :
    (s.record i none source)[i]? = some { cell with ended := true } := by
  rw [Store.record, Array.getElem?_modify, if_pos rfl, h]
  rfl

/-- a changed cell that is right keeps the store explained -/
theorem advances_of_cell {cell cell' : Cell} (h : Explained m s) (hs : s[i]? = some cell) (ht : t[i]? = some cell')
    (hsame : t.size = s.size) (hne : ∀ j, j ≠ i → t[j]? = s[j]?) (hsource : cell'.ended = false → cell'.source.Holds m i cell'.known.size)
    (hknown : ∀ n l, cell'.known[n]? = some l → m i n = some l)
    (hended : cell'.ended = true → m i cell'.known.size = none) (hsize : cell.known.size ≤ cell'.known.size)
    (hstays : cell.ended = true → cell'.ended = true) : Advances m i s t := by
  have hexplained : Explained m t := by
    refine ⟨h.closed, fun {j c} hj hc => ?_, fun {j n l} hj => ?_, fun {j} hj => ?_⟩
    · by_cases hji : j = i
      · subst hji
        obtain rfl : cell' = c := Option.some.inj (ht.symm.trans hj)
        exact hsource hc
      · exact h.source ((hne j hji).symm.trans hj) hc
    · by_cases hji : j = i
      · subst hji
        exact hknown n l (by rwa [known_of_getElem? ht] at hj)
      · exact h.known (by rwa [known_congr (hne j hji)] at hj)
    · by_cases hji : j = i
      · subst hji
        rw [known_of_getElem? ht]
        exact hended (by rwa [ended_of_getElem? ht] at hj)
      · rw [known_congr (hne j hji)]
        exact h.ended (by rwa [ended_congr (hne j hji)] at hj)
  refine ⟨hexplained, hsame, fun j hj => hne j (Nat.ne_of_gt hj), fun j => ?_, fun j hj => ?_⟩
  · by_cases hji : j = i
    · subst hji
      rwa [known_of_getElem? hs, known_of_getElem? ht]
    · exact Nat.le_of_eq (by rw [known_congr (hne j hji)])
  · by_cases hji : j = i
    · subst hji
      rw [ended_of_getElem? ht]
      exact hstays (by rwa [ended_of_getElem? hs] at hj)
    · rwa [ended_congr (hne j hji)]

/-- the right level recorded with a source of those after it, or the end where there is none -/
theorem record_spec {cell : Cell} {source : Source} (h : Explained m s) (hs : s[i]? = some cell)
    (hsource : ∀ l, m i cell.known.size = some l → source.Holds m i (cell.known.size + 1)) :
    Advances m i s (s.record i (m i cell.known.size) source) ∧
      Reached (s.record i (m i cell.known.size) source) i cell.known.size := by
  have hknown : ∀ n l, cell.known[n]? = some l → m i n = some l := fun n l hl =>
    h.known (by rwa [known_of_getElem? hs])
  have hsame : ∀ level, (s.record i level source).size = s.size := fun _ => Array.size_modify
  cases hm : m i cell.known.size with
  | none =>
    have ht := getElem?_record_none hs source
    refine ⟨advances_of_cell h hs ht (hsame _) (fun j hj => getElem?_record_of_ne hj _ _) (fun hc => nomatch hc) hknown
      (fun _ => hm) (Nat.le_refl _) fun _ => rfl, Or.inr ?_⟩
    rw [ended_of_getElem? ht]
  | some l =>
    have ht := getElem?_record_some hs l source
    refine ⟨advances_of_cell h hs ht (hsame _) (fun j hj => getElem?_record_of_ne hj _ _) ?_ ?_ ?_ ?_ id, Or.inl ?_⟩
    · intro _
      rw [Array.size_push]
      exact hsource l hm
    · intro n l' hl'
      rw [Array.getElem?_push] at hl'
      split at hl'
      next heq => rw [heq, hm, hl']
      next => exact hknown n l' hl'
    · intro hended
      -- a language that has ended has no further level
      have := h.ended (i := i) (by rw [ended_of_getElem? hs]; exact hended)
      rw [known_of_getElem? hs, hm] at this
      cases this
    · rw [Array.size_push]
      exact Nat.le_succ _
    · rw [known_of_getElem? ht, Array.size_push]
      exact Nat.lt_succ_self _

/-! ## Reading -/

/-- how the source of language `i` reads: earlier languages are found out further, its own is not -/
def readFor (i : Nat) (r : Reader) (store : Store) : Option StringSet × Reader × Store :=
  let store := if r.language < i then store.fill r.language r.position else store
  let (level, r) := store.pass r
  (level, r, store)

theorem fill_eq (i n : Nat) (store : Store) :
    store.fill i n = Store.repeatPull (Store.pull (readFor i) i) i (n + 1 - (store.known i).size) store := by
  rw [Store.fill]
  rfl

/-- what a reading of language `i` up to level `k` achieves -/
def Fills (m : Nat → Levels) (i : Nat) : Prop :=
  ∀ k s, Explained m s → Advances m i s (s.fill i k) ∧ Reached (s.fill i k) i k

/-- what is read for language `i` is right and leaves that language as it is -/
theorem readFor_spec {r : Reader} (hfills : ∀ j < i, Fills m j) (h : Explained m s) (hat : r.At m k)
    (hr : r.language < i ∨ r.language = i ∧ k < (s.known i).size) :
    ∃ r' t, readFor i r s = (m r.language k, r', t) ∧ Advances m i s t ∧ t[i]? = s[i]? ∧ r'.language = r.language ∧
      r'.At m (k + 1) := by
  rcases hr with hlt | ⟨hown, hk⟩
  · obtain ⟨hadv, hreached⟩ := hfills _ hlt r.position s h
    obtain ⟨hlevel, hlanguage, hat'⟩ := pass_spec hadv.explained hat hreached
    refine ⟨_, _, ?_, hadv.mono (Nat.le_of_lt hlt), hadv.above i hlt, hlanguage, hat'⟩
    rw [readFor, if_pos hlt, ← hlevel]
  · have hreached : Reached s r.language r.position := Or.inl (by rw [hown]; exact Nat.lt_of_le_of_lt hat.position_le hk)
    obtain ⟨hlevel, hlanguage, hat'⟩ := pass_spec h hat hreached
    refine ⟨_, _, ?_, .refl h, rfl, hlanguage, hat'⟩
    rw [readFor, if_neg (Nat.not_lt.2 (Nat.le_of_eq hown.symm)), ← hlevel]

/-- two languages read, one after the other -/
theorem readFor_both {a b : Reader} {ka kb : Nat} (hfills : ∀ j < i, Fills m j) (h : Explained m s) (ha : a.At m ka)
    (hb : b.At m kb) (hra : a.language < i) (hrb : b.language < i ∨ b.language = i ∧ kb < (s.known i).size) :
    ∃ a' b' t u, readFor i a s = (m a.language ka, a', t) ∧ readFor i b t = (m b.language kb, b', u) ∧
      Advances m i s u ∧ u[i]? = s[i]? ∧ (a'.language = a.language ∧ a'.At m (ka + 1)) ∧
      (b'.language = b.language ∧ b'.At m (kb + 1)) := by
  obtain ⟨a', t, hreada, hadva, hsamea, hlanga, hata⟩ := readFor_spec hfills h ha (Or.inl hra)
  obtain ⟨b', u, hreadb, hadvb, hsameb, hlangb, hatb⟩ :=
    readFor_spec hfills hadva.explained hb (by rwa [known_congr hsamea])
  exact ⟨a', b', t, u, hreada, hreadb, hadva.trans hadvb, hsameb.trans hsamea, ⟨hlanga, hata⟩, hlangb, hatb⟩

/-- the right level recorded after other languages have been read -/
theorem Advances.record {cell : Cell} {level : Option StringSet} {source : Source} (h : Advances m i s t)
    (ht : t[i]? = some cell) (hlevel : level = m i cell.known.size)
    (hsource : ∀ l, m i cell.known.size = some l → source.Holds m i (cell.known.size + 1)) :
    Advances m i s (t.record i level source) ∧ Reached (t.record i level source) i cell.known.size := by
  subst hlevel
  obtain ⟨hadv, hr⟩ := record_spec h.explained ht hsource
  exact ⟨h.trans hadv, hr⟩

/-- a diagonal of what two readers have collected, and where it leaves them -/
theorem Convolves.next {c : Nat} {a b a' b' : Reader} {xs ys : Array StringSet} (h : Convolves m i c n a b xs ys)
    (hm : ∀ j, (m j).Closed) (ha : a'.language = a.language ∧ a'.At m (n + c + 1))
    (hb : b'.language = b.language ∧ b'.At m (n + 1)) :
    let xs' := Store.collect xs (m a.language (n + c))
    let ys' := Store.collect ys (m b.language n)
    Store.diagonal xs' ys' n = m i (n + c) ∧ Convolves m i c (n + 1) a' b' xs' ys' := by
  intro xs' ys'
  have hshift : Levels.Closed fun j => m a.language (j + c) := fun j hj => by
    show m a.language (j + 1 + c) = none
    rw [Nat.add_right_comm]
    exact hm _ _ hj
  have hxs : Collects (fun j => m a.language (j + c)) (n + 1) xs' := h.first_levels.collect hshift
  have hys : Collects (m b.language) (n + 1) ys' := h.second_levels.collect (hm _)
  constructor
  · rw [store_diagonal_eq, h.levels]
    exact diagonal_congr (fun j hj => hxs.getElem?_eq (Nat.lt_succ_of_le hj)) fun j hj =>
      hys.getElem?_eq (Nat.lt_succ_of_le hj)
  · have hsum : n + c + 1 = n + 1 + c := Nat.add_right_comm n c 1
    obtain ⟨hla, hata⟩ := ha
    obtain ⟨hlb, hatb⟩ := hb
    exact ⟨hla ▸ h.first_lt, hlb ▸ h.second_lt, hsum ▸ hata, hatb, hla ▸ hxs, hlb ▸ hys, hla ▸ hlb ▸ h.levels⟩

theorem pull_spec (hfills : ∀ j < i, Fills m j) (h : Explained m s) (hend : s.ended i = false) :
    Advances m i s (Store.pull (readFor i) i s) ∧ Reached (Store.pull (readFor i) i s) i (s.known i).size := by
  unfold Store.pull
  cases hs : s[i]? with
  | none =>
    refine ⟨.refl h, Or.inr ?_⟩
    rw [Store.ended, hs]
    rfl
  | some cell =>
    have hk : (s.known i).size = cell.known.size := by rw [known_of_getElem? hs]
    have hsource := h.source hs (by rwa [ended_of_getElem? hs] at hend)
    simp only [hk]
    cases hc : cell.source with
    | listed levels =>
      rw [hc] at hsource
      refine (Advances.refl h).record hs ?_ fun l _ j => ?_
      · rw [List.head?_eq_getElem?, ← hsource 0, Nat.add_zero]
      · rw [List.getElem?_tail, ← hsource (j + 1), Nat.add_right_comm, Nat.add_assoc]
    | union a b =>
      rw [hc] at hsource
      obtain ⟨⟨hla, hata⟩, ⟨hlb, hatb⟩, hm⟩ := hsource
      obtain ⟨a', b', t, u, hreada, hreadb, hadv, hsame, ⟨hla', hata'⟩, hlb', hatb'⟩ :=
        readFor_both hfills h hata hatb hla (Or.inl hlb)
      simp only [hreada, hreadb]
      refine hadv.record (hsame.trans hs) (by rw [hm]; rfl) fun l _ => ?_
      exact ⟨⟨hla' ▸ hla, hata'⟩, ⟨hlb' ▸ hlb, hatb'⟩, by rw [hm, hla', hlb']⟩
    | seq n a b xs ys =>
      rw [hc] at hsource
      obtain ⟨c, hsize, hconv⟩ := hsource
      have hown : b.language < i ∨ b.language = i ∧ n < (s.known i).size :=
        hconv.second_lt.imp_right fun ⟨heq, hpos⟩ => ⟨heq, by omega⟩
      obtain ⟨a', b', t, u, hreada, hreadb, hadv, hsame, ha', hb'⟩ :=
        readFor_both hfills h hconv.first_at hconv.second_at hconv.first_lt hown
      obtain ⟨hlevel, hnext⟩ := hconv.next h.closed ha' hb'
      simp only [hreada, hreadb]
      refine hadv.record (hsame.trans hs) (by rw [hlevel, hsize]) fun l _ => ?_
      exact ⟨c, by rw [hsize, Nat.add_right_comm], hnext⟩
    | star a =>
      rw [hc] at hsource
      obtain ⟨hzero, ha, hm⟩ := hsource
      refine (Advances.refl h).record hs (by rw [hm, hzero, Levels.star_zero]) fun l _ => ?_
      -- from level 1 on, the diagonals of the language without its level 0 and of the repetition
      refine ⟨1, by rw [hzero], ha, Or.inr ⟨rfl, Nat.one_pos⟩, Reader.at_of_eq rfl, Reader.at_of_eq rfl,
        collects_empty _, collects_empty _, fun j => ?_⟩
      rw [hm, Levels.star_succ]

theorem repeatPull_spec (hfills : ∀ j < i, Fills m j) (times : Nat) : ∀ s, Explained m s →
    Advances m i s (Store.repeatPull (Store.pull (readFor i) i) i times s) ∧
      ∀ n < (s.known i).size + times, Reached (Store.repeatPull (Store.pull (readFor i) i) i times s) i n := by
  induction times with
  | zero => exact fun s h => ⟨.refl h, fun n hn => Or.inl hn⟩
  | succ times ih =>
    intro s h
    rw [Store.repeatPull]
    split
    next hended => exact ⟨.refl h, fun n _ => Or.inr hended⟩
    next hnot =>
      obtain ⟨hadv, hr⟩ := pull_spec hfills h (Bool.eq_false_iff.2 hnot)
      obtain ⟨hadv', hr'⟩ := ih _ hadv.explained
      refine ⟨hadv.trans hadv', fun n hn => ?_⟩
      rcases hr with hlt | hended
      · exact hr' n (by omega)
      · exact Or.inr (hadv'.ended i hended)

/-- **Reading.** In a store that is explained, filling reaches the level asked for and keeps the store explained; it
touches no later language and forgets nothing. -/
theorem fill_spec (m : Nat → Levels) (i : Nat) : Fills m i := by
  induction i using Nat.strongRecOn with
  | ind i ih =>
    intro n s h
    rw [fill_eq]
    obtain ⟨hadv, hr⟩ := repeatPull_spec ih (n + 1 - (s.known i).size) s h
    exact ⟨hadv, hr n (by omega)⟩

theorem level_spec (h : Explained m s) (i n : Nat) : (s.level i n).1 = m i n ∧ Advances m i s (s.level i n).2 := by
  obtain ⟨hadv, hr⟩ := fill_spec m i n s h
  exact ⟨hadv.explained.known_eq hr, hadv⟩

/-- a reader that has come to level `k` gives it, whatever has been read before, and has come to the next -/
theorem next_spec {r : Reader} (h : Explained m s) (hat : r.At m k) :
    ∃ r' t, s.next r = (m r.language k, r', t) ∧ Advances m r.language s t ∧ r'.language = r.language ∧
      r'.At m (k + 1) := by
  obtain ⟨hadv, hr⟩ := fill_spec m r.language r.position s h
  obtain ⟨hlevel, hlanguage, hat'⟩ := pass_spec hadv.explained hat hr
  exact ⟨_, _, by rw [Store.next, ← hlevel], hadv, hlanguage, hat'⟩

/-! ## Making languages -/

theorem Convolves.congr {m' : Nat → Levels} {c : Nat} {a b : Reader} {xs ys : Array StringSet}
    (h : Convolves m i c n a b xs ys) (heq : ∀ j ≤ i, m' j = m j) : Convolves m' i c n a b xs ys := by
  have ha : m' a.language = m a.language := heq _ (Nat.le_of_lt h.first_lt)
  have hb : m' b.language = m b.language := heq _ (h.second_lt.elim Nat.le_of_lt fun hown => Nat.le_of_eq hown.1)
  exact ⟨h.first_lt, h.second_lt, h.first_at.congr ha, h.second_at.congr hb, ha ▸ h.first_levels, hb ▸ h.second_levels,
    by rw [heq i (Nat.le_refl i), ha, hb]; exact h.levels⟩

theorem Source.Holds.congr {m' : Nat → Levels} {source : Source} (h : source.Holds m i k) (heq : ∀ j ≤ i, m' j = m j) :
    source.Holds m' i k := by
  cases source with
  | listed levels => exact fun j => (congrFun (heq i (Nat.le_refl i)) (k + j)).trans (h j)
  | union a b =>
    obtain ⟨⟨hla, hata⟩, ⟨hlb, hatb⟩, hm⟩ := h
    have ha := heq _ (Nat.le_of_lt hla)
    have hb := heq _ (Nat.le_of_lt hlb)
    exact ⟨⟨hla, hata.congr ha⟩, ⟨hlb, hatb.congr hb⟩, by rw [heq i (Nat.le_refl i), ha, hb, hm]⟩
  | seq n a b xs ys =>
    obtain ⟨c, hsize, hconv⟩ := h
    exact ⟨c, hsize, hconv.congr heq⟩
  | star a =>
    obtain ⟨hzero, ha, hm⟩ := h
    exact ⟨hzero, ha, by rw [heq i (Nat.le_refl i), heq a (Nat.le_of_lt ha), hm]⟩

theorem getElem?_add_self (source : Source) (p : Nat) : (s.add source p).2[s.size]? = some ⟨source, #[], false, p⟩ :=
  Array.getElem?_push_size

theorem getElem?_add_of_ne (hj : j ≠ s.size) (source : Source) (p : Nat) : (s.add source p).2[j]? = s[j]? := by
  rw [Store.add, Array.getElem?_push, if_neg hj]

theorem explained_empty : Explained (fun _ _ => none) #[] :=
  ⟨fun _ => Levels.closed_none, fun h => by simp at h, fun h => by simp [Store.known] at h, fun _ => rfl⟩

/-- a language added with a source that gives its levels -/
theorem Explained.add {f : Levels} {source : Source} (h : Explained m s) (hf : f.Closed)
    (hsource : source.Holds (Function.update m s.size f) s.size 0) (p : Nat) :
    Explained (Function.update m s.size f) (s.add source p).2 where
  closed := by
    intro j
    by_cases hj : j = s.size
    · rw [hj, Function.update_self]
      exact hf
    · rw [Function.update_of_ne hj]
      exact h.closed j
  source := by
    intro j cell hcell hend
    by_cases hj : j = s.size
    · subst hj
      rw [getElem?_add_self] at hcell
      cases hcell
      exact hsource
    · rw [getElem?_add_of_ne hj] at hcell
      have hlt := (Array.getElem?_eq_some_iff.1 hcell).1
      exact (h.source hcell hend).congr fun k hk => Function.update_of_ne (by omega) _ _
  known := by
    intro j n l hl
    by_cases hj : j = s.size
    · subst hj
      rw [known_of_getElem? (getElem?_add_self source p)] at hl
      simp at hl
    · rw [known_congr (getElem?_add_of_ne hj source p)] at hl
      rw [Function.update_of_ne hj]
      exact h.known hl
  ended := by
    intro j hend
    by_cases hj : j = s.size
    · subst hj
      rw [ended_of_getElem? (getElem?_add_self source p)] at hend
      cases hend
    · rw [ended_congr (getElem?_add_of_ne hj source p)] at hend
      rw [Function.update_of_ne hj, known_congr (getElem?_add_of_ne hj source p)]
      exact h.ended hend

/-- language `i` of the store `t` has been made after those of `s`, with levels `f` and span `p` -/
structure Made (m m' : Nat → Levels) (s t : Store) (i : Nat) (f : Levels) (p : Nat) : Prop where
  explained : Explained m' t
  lt_size : i < t.size
  size_le : s.size ≤ t.size
  same : ∀ j < s.size, m' j = m j ∧ t.span j = s.span j
  levels_eq : m' i = f
  span_eq : t.span i = p

variable {m₁ m₂ : Nat → Levels} {f g : Levels} {p q a b : Nat}

theorem made_add {source : Source} (h : Explained m s) (hf : f.Closed)
    (hsource : source.Holds (Function.update m s.size f) s.size 0) (p : Nat) :
    Made m (Function.update m s.size f) s (s.add source p).2 s.size f p where
  explained := h.add hf hsource p
  lt_size := by
    rw [Store.add, Array.size_push]
    exact Nat.lt_succ_self _
  size_le := by
    rw [Store.add, Array.size_push]
    exact Nat.le_succ _
  same := fun j hj => ⟨Function.update_of_ne (Nat.ne_of_lt hj) _ _, by
    rw [Store.span, Store.span, getElem?_add_of_ne (Nat.ne_of_lt hj)]⟩
  levels_eq := Function.update_self _ _ _
  span_eq := by
    rw [Store.span, getElem?_add_self]
    rfl

theorem Made.trans (h : Made m m₁ s t a f p) (h' : Made m₁ m₂ t u b g q) : Made m m₂ s u b g q where
  explained := h'.explained
  lt_size := h'.lt_size
  size_le := Nat.le_trans h.size_le h'.size_le
  same := fun j hj => by
    obtain ⟨hm, hp⟩ := h.same j hj
    obtain ⟨hm', hp'⟩ := h'.same j (Nat.lt_of_lt_of_le hj h.size_le)
    exact ⟨hm'.trans hm, hp'.trans hp⟩
  levels_eq := h'.levels_eq
  span_eq := h'.span_eq

/-- what has been made stays when more is made -/
theorem Made.keep (h : Made m m₁ s t a f p) (h' : Made m₁ m₂ t u b g q) : m₂ a = f ∧ u.span a = p ∧ a < u.size := by
  obtain ⟨hm, hp⟩ := h'.same a h.lt_size
  exact ⟨hm.trans h.levels_eq, hp.trans h.span_eq, Nat.lt_of_lt_of_le h.lt_size h'.size_le⟩

theorem Made.closed (h : Made m m₁ s t a f p) : f.Closed := h.levels_eq ▸ h.explained.closed a

/-- a language made of two others by a source that determines its levels from theirs -/
theorem Made.both {source : Source} {r : Nat} {l : Levels} (h : Made m m₁ s t a f p) (h' : Made m₁ m₂ t u b g q)
    (hl : l.Closed)
    (hsource : ∀ {m : Nat → Levels} {i}, a < i → b < i → m a = f → m b = g → m i = l → source.Holds m i 0) :
    Made m (Function.update m₂ u.size l) s (u.add source r).2 u.size l r := by
  obtain ⟨hma, -, ha⟩ := h.keep h'
  have hb := h'.lt_size
  refine h.trans (h'.trans (made_add h'.explained hl (hsource ha hb ?_ ?_ (Function.update_self _ _ _)) r))
  · rw [Function.update_of_ne (Nat.ne_of_lt ha), hma]
  · rw [Function.update_of_ne (Nat.ne_of_lt hb), h'.levels_eq]

theorem holds_union {m : Nat → Levels} {i a b : Nat} (ha : a < i) (hb : b < i) (hm : m i = (m a).union (m b)) :
    Source.Holds m i 0 (.union ⟨a, 0⟩ ⟨b, 0⟩) :=
  ⟨⟨ha, Reader.at_of_eq rfl⟩, ⟨hb, Reader.at_of_eq rfl⟩, hm⟩

theorem holds_seq {m : Nat → Levels} {i a b : Nat} (ha : a < i) (hb : b < i) (hm : m i = (m a).seq (m b)) :
    Source.Holds m i 0 (.seq 0 ⟨a, 0⟩ ⟨b, 0⟩ #[] #[]) :=
  ⟨0, rfl, ha, Or.inl hb, Reader.at_of_eq rfl, Reader.at_of_eq rfl, collects_empty _, collects_empty _,
    fun j => congrFun hm j⟩

theorem made_union (h : Made m m₁ s t a f p) (h' : Made m₁ m₂ t u b g q) :
    ∃ m', Made m m' s (u.addUnion a b).2 (u.addUnion a b).1 (f.union g) (max p q) := by
  rw [Store.addUnion, (h.keep h').2.1, h'.span_eq]
  refine ⟨_, h.both h' (h.closed.union h'.closed) fun ha hb hf hg hl => holds_union ha hb ?_⟩
  rw [hl, hf, hg]

theorem made_seq (h : Made m m₁ s t a f p) (h' : Made m₁ m₂ t u b g q) :
    ∃ m', Made m m' s (u.addSeq a b).2 (u.addSeq a b).1 (f.seq g) (p + q) := by
  rw [Store.addSeq, (h.keep h').2.1, h'.span_eq]
  refine ⟨_, h.both h' (h.closed.seq h'.closed) fun ha hb hf hg hl => holds_seq ha hb ?_⟩
  rw [hl, hf, hg]

theorem made_star (h : Made m m₁ s t a f p) :
    ∃ m', Made m m' s (t.addStar a).2 (t.addStar a).1 f.star p := by
  have ha := h.lt_size
  have hsource : (Source.star a).Holds (Function.update m₁ t.size f.star) t.size 0 := by
    refine ⟨rfl, ha, ?_⟩
    rw [Function.update_self, Function.update_of_ne (Nat.ne_of_lt ha), h.levels_eq]
  rw [Store.addStar, h.span_eq]
  exact ⟨_, h.trans (made_add h.explained h.closed.star hsource p)⟩

theorem made_listed (h : Explained m s) (levels : List StringSet) :
    ∃ m', Made m m' s (s.addListed levels).2 (s.addListed levels).1 (Levels.listed levels) levels.length := by
  have hsource : (Source.listed levels).Holds (Function.update m s.size (Levels.listed levels)) s.size 0 := by
    intro j
    rw [Function.update_self, Nat.zero_add]
    rfl
  exact ⟨_, made_add h (Levels.closed_listed levels) hsource levels.length⟩

/-- **Making.** The language of an expression has the levels of the expression. -/
theorem made_addRegex (e : Regex) :
    ∀ m s, Explained m s → ∃ m', Made m m' s (s.addRegex e).2 (s.addRegex e).1 e.levels e.span := by
  induction e with
  | empty => exact fun m s h => made_listed h [[""]]
  | letter c => exact fun m s h => made_listed h [[], [c]]
  | alt left right ihl ihr =>
    intro m s h
    obtain ⟨m₁, h₁⟩ := ihl m s h
    obtain ⟨m₂, h₂⟩ := ihr m₁ _ h₁.explained
    exact made_union h₁ h₂
  | seq left right ihl ihr =>
    intro m s h
    obtain ⟨m₁, h₁⟩ := ihl m s h
    obtain ⟨m₂, h₂⟩ := ihr m₁ _ h₁.explained
    exact made_seq h₁ h₂
  | star inner ih =>
    intro m s h
    obtain ⟨m₁, h₁⟩ := ih m s h
    exact made_star h₁

end Language

end GrammarLab
