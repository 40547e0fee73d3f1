/-
The texts of a language in order, and what the language of a regular expression is.

`texts f k count` are the texts of some levels, one after another: by length, then by contents. Reading at most `n` of
the texts of a language in a store gives the first `n` of them (`isFirst_stringsFrom`): rows of empty levels are passed
over for long enough if there are texts to come (`Patient`). `Listing` says it of the set that an expression stands for.
- `addRegex_exact`: levels, texts in order, and that the levels end just if the set is finite.
-/
import GrammarLab.Proofs.Language.Denotation
import GrammarLab.Proofs.Language.Reading
import Mathlib.Data.List.Nodup
import Mathlib.Data.Set.Finite.List

namespace GrammarLab

namespace Language

variable {L : Language Char} {f : Levels} {k n c p : Nat}

/-! ## Levels one after another -/

/-- the texts of `count` levels from level `k` on -/
def texts (f : Levels) (k : Nat) : Nat → List String
  | 0 => []
  | count + 1 => (f k).getD [] ++ texts f (k + 1) count

/-- by length, then by contents -/
def Before (s t : String) : Prop := s.length < t.length ∨ s.length = t.length ∧ s < t

theorem Before.ne {s t : String} (h : Before s t) : s ≠ t := by
  rintro rfl
  rcases h with h | ⟨-, h⟩
  · exact Nat.lt_irrefl _ h
  · exact String.lt_irrefl _ h

theorem Before.asymm {s t : String} (h : Before s t) : ¬ Before t s := by
  intro h'
  rcases h with h | ⟨hlen, h⟩
  · rcases h' with h' | ⟨hlen', -⟩ <;> omega
  · rcases h' with h' | ⟨-, h'⟩
    · omega
    · exact String.lt_irrefl _ (String.lt_trans h h')

theorem mem_texts_iff (h : ∀ n, IsLevel L n (f n)) {s : String} :
    s ∈ texts f k c ↔ s.toList ∈ L ∧ k ≤ s.length ∧ s.length < k + c := by
  induction c generalizing k with
  | zero => exact iff_of_false List.not_mem_nil (by omega)
  | succ c ih =>
    rw [texts, List.mem_append, (h k).mem_getD_iff, ih, ← and_or_left]
    exact and_congr_right fun _ => by omega

theorem pairwise_texts (h : ∀ n, IsLevel L n (f n)) (k c : Nat) : (texts f k c).Pairwise Before := by
  induction c generalizing k with
  | zero => exact List.Pairwise.nil
  | succ c ih =>
    rw [texts, List.pairwise_append]
    refine ⟨(h k).increasing_getD.imp_of_mem fun hs ht hlt => Or.inr ⟨?_, hlt⟩, ih (k + 1), fun s hs t ht => Or.inl ?_⟩
    · rw [(((h k).mem_getD_iff _).1 hs).2, (((h k).mem_getD_iff _).1 ht).2]
    · have := (((h k).mem_getD_iff _).1 hs).2
      have := ((mem_texts_iff h).1 ht).2.1
      omega

/-! ## Reading texts -/

/-- more than `p` empty levels never stand in a row -/
def Patient (f : Levels) (p : Nat) : Prop := ∀ k, ∃ j ≤ p, f (k + j) ≠ some []

theorem Gap.patient (hgap : Gap L p) (h : ∀ n, IsLevel L n (f n)) : Patient f p := by
  intro k
  by_contra hnot
  push Not at hnot
  have hk : f k = some [] := hnot 0 (Nat.zero_le p)
  obtain ⟨w, hw, hkw⟩ := (h k).exists_word (by rw [hk]; exact Option.some_ne_none _)
  obtain ⟨v, hv, hkv, hvp⟩ := hgap w hw k hkw
  obtain ⟨l, hl, hmem⟩ := (h v.length).exists_mem hv rfl
  have hempty := hnot (v.length - k) (by omega)
  rw [Nat.add_sub_cancel' hkv, hl] at hempty
  cases hempty
  exact List.not_mem_nil hmem

/-- the levels before level `k`, as many as `empties`, are empty -/
def EmptyBefore (f : Levels) (k empties : Nat) : Prop :=
  ∃ start, start + empties = k ∧ ∀ j < empties, f (start + j) = some []

theorem emptyBefore_zero (f : Levels) (k : Nat) : EmptyBefore f k 0 :=
  ⟨k, rfl, fun _ hj => absurd hj (Nat.not_lt_zero _)⟩

theorem EmptyBefore.push {empties : Nat} (h : EmptyBefore f k empties) (hk : f k = some []) :
    EmptyBefore f (k + 1) (empties + 1) := by
  obtain ⟨start, rfl, hrow⟩ := h
  refine ⟨start, rfl, fun j hj => ?_⟩
  rcases Nat.lt_succ_iff_lt_or_eq.1 hj with hlt | rfl
  · exact hrow j hlt
  · exact hk

/-- patience is never exhausted -/
theorem EmptyBefore.lt_of_patient {empties : Nat} (h : EmptyBefore f k empties) (hp : Patient f p) (hk : f k = some []) :
    empties < p := by
  by_contra hle
  obtain ⟨start, -, hrow⟩ := h.push hk
  obtain ⟨j, hj, hnot⟩ := hp start
  exact hnot (hrow j (by omega))

/-- the first `n` texts from level `k` on, or all of them if there are fewer -/
def IsFirst (f : Levels) (k n : Nat) (r : List String) : Prop :=
  ∃ c, r = (texts f k c).take n ∧ (r.length = n ∨ f (k + c) = none)

theorem isFirst_zero (f : Levels) (k : Nat) : IsFirst f k 0 [] := ⟨0, rfl, Or.inl rfl⟩

theorem isFirst_nil (hk : f k = none) (n : Nat) : IsFirst f k n [] := ⟨0, List.take_nil.symm, Or.inr hk⟩

theorem IsFirst.append {l r : List String} (hk : f k = some l) (h : IsFirst f (k + 1) (n - l.length) r) :
    IsFirst f k n (l.take n ++ r) := by
  obtain ⟨c, hr, hend⟩ := h
  refine ⟨c + 1, ?_, hend.imp (fun hlen => ?_) fun hnone => ?_⟩
  · rw [texts, hk, Option.getD_some, List.take_append, hr]
  · rw [List.length_append, List.length_take, hlen]
    omega
  · rwa [Nat.add_right_comm] at hnone

/-- what is read are the first texts of the levels -/
theorem isFirst_stringsFrom {m : Nat → Levels} (i p k n empties : Nat) (s : Store) (hp : Patient (m i) p)
    (h : Explained m s) (hempty : EmptyBefore (m i) k empties) :
    IsFirst (m i) k n (s.stringsFrom i p k n empties).1 := by
  fun_induction Store.stringsFrom i p k n empties s with
  | case1 => exact isFirst_zero _ _
  | case2 k n empties s _ t hlevel =>
    obtain ⟨hk, -⟩ := level_spec h i k
    rw [hlevel] at hk
    exact isFirst_nil hk.symm n
  | case3 k n empties s _ t hlevel _ ih =>
    obtain ⟨hk, hadv⟩ := level_spec h i k
    rw [hlevel] at hk hadv
    have hfirst := (ih hadv.explained (hempty.push hk.symm)).append hk.symm
    rwa [List.take_nil, List.nil_append] at hfirst
  | case4 k n empties s _ t hlevel hstop =>
    obtain ⟨hk, -⟩ := level_spec h i k
    rw [hlevel] at hk
    exact absurd (hempty.lt_of_patient hp hk.symm) hstop
  | case5 k n empties s _ x l t hlevel ss u hrest ih =>
    obtain ⟨hk, hadv⟩ := level_spec h i k
    rw [hlevel] at hk hadv
    rw [hrest] at ih
    exact (ih hadv.explained (emptyBefore_zero _ _)).append hk.symm

/-! ## The texts of a set -/

/-- the first `n` texts of a set in order, or all of them if there are fewer -/
structure Listing (L : Language Char) (n : Nat) (r : List String) : Prop where
  ordered : r.Pairwise Before
  sound : ∀ s ∈ r, s.toList ∈ L
  length_le : r.length ≤ n
  complete : ∀ s : String, s.toList ∈ L → s ∈ r ∨ r.length = n ∧ ∀ t ∈ r, Before t s

theorem IsFirst.listing {r : List String} (h : ∀ n, IsLevel L n (f n)) (hr : IsFirst f 0 n r) : Listing L n r := by
  obtain ⟨c, rfl, hend⟩ := hr
  have hordered := pairwise_texts h 0 c
  refine ⟨hordered.sublist (List.take_sublist _ _), fun s hs => ?_, ?_, fun s hs => ?_⟩
  · exact ((mem_texts_iff h).1 (List.mem_of_mem_take hs)).1
  · rw [List.length_take]
    exact Nat.min_le_left _ _
  · by_cases hlen : s.length < 0 + c
    · have hmem : s ∈ texts f 0 c := (mem_texts_iff h).2 ⟨hs, Nat.zero_le _, hlen⟩
      rw [← List.take_append_drop n (texts f 0 c)] at hmem hordered
      rcases List.mem_append.1 hmem with hfirst | hlater
      · exact Or.inl hfirst
      · have hn : n < (texts f 0 c).length := by
          by_contra hle
          rw [List.drop_eq_nil_of_le (Nat.not_lt.1 hle)] at hlater
          exact List.not_mem_nil hlater
        refine Or.inr ⟨?_, fun t ht => (List.pairwise_append.1 hordered).2.2 t ht s hlater⟩
        rw [List.length_take]
        omega
    · -- a text of a later level
      refine Or.inr ⟨hend.resolve_right fun hnone => ?_, fun t ht => Or.inl ?_⟩
      · have := (h _).none_iff.1 hnone _ hs
        rw [String.length_toList] at this
        exact hlen this
      · have := ((mem_texts_iff h).1 (List.mem_of_mem_take ht)).2.2
        omega

/-- the first texts of the first texts -/
theorem Listing.take {r : List String} (h : Listing L n r) (hk : k ≤ r.length) : Listing L k (r.take k) where
  ordered := h.ordered.sublist (List.take_sublist k r)
  sound := fun s hs => h.sound s (List.mem_of_mem_take hs)
  length_le := List.length_take_le k r
  complete := by
    intro s hs
    have hlen : (r.take k).length = k := List.length_take_of_le hk
    have hordered := h.ordered
    rcases h.complete s hs with hmem | ⟨-, hbefore⟩
    · rw [← List.take_append_drop k r] at hmem hordered
      rcases List.mem_append.1 hmem with hfirst | hlater
      · exact Or.inl hfirst
      · exact Or.inr ⟨hlen, fun t ht => (List.pairwise_append.1 hordered).2.2 t ht s hlater⟩
    · exact Or.inr ⟨hlen, fun t ht => hbefore t (List.mem_of_mem_take ht)⟩

/-- as many texts from the first on are the same texts -/
theorem Listing.eq_of_length_eq {r r' : List String} (h : Listing L r.length r) (h' : Listing L r'.length r')
    (hlen : r.length = r'.length) : r = r' := by
  have hnodup : r.Nodup := h.ordered.imp Before.ne
  have hnodup' : r'.Nodup := h'.ordered.imp Before.ne
  have hsub : r ⊆ r' := by
    -- a text of the first list only would come after all of the second, and so would have to be one more
    intro s hs
    rcases h'.complete s (h.sound s hs) with hmem | ⟨-, hafter⟩
    · exact hmem
    · have hsub' : r' ⊆ r := by
        intro t ht
        rcases h.complete t (h'.sound t ht) with hmem | ⟨-, hbefore⟩
        · exact hmem
        · exact absurd (hbefore s hs) (hafter t ht).asymm
      exact ((hnodup'.subperm hsub').perm_of_length_le hlen.le).symm.subset hs
  have hperm : r.Perm r' := (hnodup.subperm hsub).perm_of_length_le hlen.ge
  exact hperm.eq_of_pairwise (fun x y _ _ hxy hyx => absurd hyx hxy.asymm) h.ordered h'.ordered

/-- fewer texts from the first on are the first of more -/
theorem Listing.isPrefix {r r' : List String} (h : Listing L r.length r) (h' : Listing L r'.length r')
    (hle : r.length ≤ r'.length) : r <+: r' := by
  have hlen : (r'.take r.length).length = r.length := List.length_take_of_le hle
  have htake : Listing L (r'.take r.length).length (r'.take r.length) := by
    rw [hlen]
    exact h'.take hle
  rw [h.eq_of_length_eq htake hlen.symm]
  exact List.take_prefix _ _

/-- long enough listings have every text -/
theorem Listing.mem_of_length {r : List String} {s : String} (h : ∀ n, IsLevel L n (f n)) (hs : s.toList ∈ L)
    (hr : Listing L ((texts f 0 (s.length + 1)).length + 1) r) : s ∈ r := by
  rcases hr.complete s hs with hmem | ⟨hlen, hbefore⟩
  · exact hmem
  · have hsub : r ⊆ texts f 0 (s.length + 1) := by
      intro t ht
      refine (mem_texts_iff h).2 ⟨hr.sound t ht, Nat.zero_le _, ?_⟩
      rcases hbefore t ht with hlt | ⟨heq, -⟩
      · omega
      · omega
    have hnodup : r.Nodup := hr.ordered.imp Before.ne
    have := (hnodup.subperm hsub).length_le
    omega

/-- the levels end just if there are finitely many texts -/
theorem exists_eq_none_iff_finite (h : ∀ n, IsLevel L n (f n)) :
    (∃ n, f n = none) ↔ Set.Finite {w | w ∈ L} := by
  constructor
  · rintro ⟨n, hn⟩
    refine (List.finite_toSet ((texts f 0 n).map String.toList)).subset fun w hw => ?_
    have := (h n).none_iff.1 hn w hw
    refine List.mem_map.2 ⟨String.ofList w, (mem_texts_iff h).2 ⟨?_, Nat.zero_le _, ?_⟩, String.toList_ofList⟩
    · rwa [String.toList_ofList]
    · rwa [String.length_ofList, Nat.zero_add]
  · intro hfin
    obtain ⟨n, hn⟩ := (hfin.image List.length).bddAbove
    exact ⟨n + 1, (h (n + 1)).none_iff.2 fun w hw => Nat.lt_succ_of_le (hn (Set.mem_image_of_mem _ hw))⟩

/-! ## The language of an expression -/

/-- reading a level of the language of an expression gives the level of the expression -/
theorem level_addRegex (e : Regex) (n : Nat) :
    ((Store.addRegex #[] e).2.level (Store.addRegex #[] e).1 n).1 = e.levels n := by
  obtain ⟨m, hmade⟩ := made_addRegex e _ _ explained_empty
  rw [(level_spec hmade.explained _ n).1, hmade.levels_eq]

/-- **The language of an expression.** Level `n` is there just if the expression stands for a text of length `n` or more,
and it has those of length `n` in order. The texts come by length and then by contents, each once, and however many come
first, all of them come. The levels end just if the expression stands for finitely many texts. -/
theorem addRegex_exact (e : Regex) (he : e.SingleLetters) :
    let i := (Store.addRegex #[] e).1
    let store := (Store.addRegex #[] e).2
    (∀ n, IsLevel e.denotation n (store.level i n).1) ∧
      (∀ n, Listing e.denotation n (store.strings i n).1) ∧
      (∀ s : String, s.toList ∈ e.denotation → ∃ n, s ∈ (store.strings i n).1) ∧
      ((∃ n, (store.level i n).1 = none) ↔ Set.Finite {w | w ∈ e.denotation}) := by
  intro i store
  obtain ⟨m, hmade⟩ := made_addRegex e _ _ explained_empty
  have hlevels : ∀ n, IsLevel e.denotation n (m i n) := by
    rw [hmade.levels_eq]
    exact Regex.isLevel_levels he
  have hpatient : Patient (m i) (store.span i) := by
    rw [hmade.span_eq]
    exact (Regex.gap_denotation he).patient (hmade.levels_eq ▸ hlevels)
  have hread : ∀ n, (store.level i n).1 = m i n := fun n => (level_spec hmade.explained i n).1
  have hlisting : ∀ n, Listing e.denotation n (store.strings i n).1 := fun n =>
    (isFirst_stringsFrom i _ 0 n 0 store hpatient hmade.explained (emptyBefore_zero _ _)).listing hlevels
  refine ⟨fun n => (hread n).symm ▸ hlevels n, hlisting, fun s hs => ⟨_, (hlisting _).mem_of_length hlevels hs⟩, ?_⟩
  simp only [hread]
  exact exists_eq_none_iff_finite hlevels

/-- the texts of `a` only, any number of times any number of times -/
def nestedSample : Regex := .star (.star (.alt .empty (.letter "a")))

theorem addRegex_exact_nested :
    nestedSample.SingleLetters ∧
      (∀ n, IsLevel nestedSample.denotation n
        ((Store.addRegex #[] nestedSample).2.level (Store.addRegex #[] nestedSample).1 n).1) ∧
      ∃ n, "aa" ∈ ((Store.addRegex #[] nestedSample).2.strings (Store.addRegex #[] nestedSample).1 n).1 := by
  have hsingle : nestedSample.SingleLetters := by decide
  obtain ⟨hlevels, -, hall, -⟩ := addRegex_exact nestedSample hsingle
  have ha : ['a'] ∈ Regex.denotation (.alt .empty (.letter "a")) := Or.inr rfl
  exact ⟨hsingle, hlevels, hall "aa" (flatten_replicate_mem_kstar (flatten_replicate_mem_kstar ha 2) 1)⟩

end Language

end GrammarLab
