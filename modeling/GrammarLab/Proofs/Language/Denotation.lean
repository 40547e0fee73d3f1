/-
The language of a regular expression as a set, and that its levels are the texts of each length in it.

`IsLevel L n level` says that a level, or that there is none, is right for the texts of length `n` in `L`. One lemma covers
sequences and repetitions (`isLevel_diagonal`): the first language may be one level up if none of its texts is too short
for that. `Gap L p` says how far the next longer text may be, also in a language that never ends.
-/
import GrammarLab.Proofs.Language.Levels
import GrammarLab.Proofs.Language.StringSet
import Mathlib.Computability.Language

namespace GrammarLab

namespace Regex

/-- the texts that an expression stands for -/
def denotation : Regex → Language Char
  | empty => 1
  | letter s => {s.toList}
  | alt left right => left.denotation + right.denotation
  | seq left right => left.denotation * right.denotation
  | star inner => KStar.kstar inner.denotation

/-- every letter is one character -/
def SingleLetters : Regex → Prop
  | empty => True
  | letter s => s.length = 1
  | alt left right => left.SingleLetters ∧ right.SingleLetters
  | seq left right => left.SingleLetters ∧ right.SingleLetters
  | star inner => inner.SingleLetters

instance decidableSingleLetters : (e : Regex) → Decidable e.SingleLetters
  | empty => inferInstanceAs (Decidable True)
  | letter s => inferInstanceAs (Decidable (s.length = 1))
  | alt left right =>
    have := decidableSingleLetters left
    have := decidableSingleLetters right
    inferInstanceAs (Decidable (_ ∧ _))
  | seq left right =>
    have := decidableSingleLetters left
    have := decidableSingleLetters right
    inferInstanceAs (Decidable (_ ∧ _))
  | star inner => decidableSingleLetters inner

end Regex

namespace Language

/-! ## Levels of a set of texts -/

/-- level `n` of a language, or its absence, as it should be -/
structure IsLevel (L : Language Char) (n : Nat) (level : Option StringSet) : Prop where
  none_iff : level = none ↔ ∀ w ∈ L, w.length < n
  increasing : ∀ {l}, level = some l → StringSet.Increasing l
  mem_iff : ∀ {l}, level = some l → ∀ s : String, s ∈ l ↔ s.toList ∈ L ∧ s.length = n

namespace IsLevel

variable {L M : Language Char} {n : Nat} {level : Option StringSet}

/-- a missing level is as good as an empty one -/
theorem increasing_getD (h : IsLevel L n level) : StringSet.Increasing (level.getD []) := by
  cases level with
  | none => exact List.Pairwise.nil
  | some l => exact h.increasing rfl

theorem mem_getD_iff (h : IsLevel L n level) (s : String) : s ∈ level.getD [] ↔ s.toList ∈ L ∧ s.length = n := by
  cases level with
  | none =>
    refine iff_of_false List.not_mem_nil fun ⟨hs, hn⟩ => ?_
    have := h.none_iff.1 rfl _ hs
    rw [String.length_toList] at this
    omega
  | some l => exact h.mem_iff rfl s

theorem exists_some (h : IsLevel L n level) {w : List Char} (hw : w ∈ L) (hn : n ≤ w.length) : ∃ l, level = some l := by
  refine Option.ne_none_iff_exists'.1 fun hnone => ?_
  have := h.none_iff.1 hnone w hw
  omega

theorem exists_word (h : IsLevel L n level) (hsome : level ≠ none) : ∃ w ∈ L, n ≤ w.length := by
  by_contra hnot
  push Not at hnot
  exact hsome (h.none_iff.2 hnot)

/-- a word of the right length is a text of the level -/
theorem exists_mem (h : IsLevel L n level) {w : List Char} (hw : w ∈ L) (hn : w.length = n) :
    ∃ l, level = some l ∧ String.ofList w ∈ l := by
  obtain ⟨l, hl⟩ := h.exists_some hw hn.ge
  exact ⟨l, hl, (h.mem_iff hl _).2 ⟨by rwa [String.toList_ofList], by rw [String.length_ofList, hn]⟩⟩

/-- a set of texts has one level of each length -/
theorem unique {level' : Option StringSet} (h : IsLevel L n level) (h' : IsLevel L n level') : level = level' := by
  cases hl : level with
  | none => exact (h'.none_iff.2 (h.none_iff.1 hl)).symm
  | some l =>
    have hsome : level' ≠ none := fun hnone => by rw [h.none_iff.2 (h'.none_iff.1 hnone)] at hl; cases hl
    obtain ⟨l', hl'⟩ := Option.ne_none_iff_exists'.1 hsome
    rw [hl', StringSet.Increasing.ext (h.increasing hl) (h'.increasing hl')
      fun s => (h.mem_iff hl s).trans (h'.mem_iff hl' s).symm]

/-- only the words that are long enough matter -/
theorem congr (h : IsLevel L n level) (heq : ∀ w : List Char, n ≤ w.length → (w ∈ L ↔ w ∈ M)) : IsLevel M n level where
  none_iff := by
    rw [h.none_iff]
    constructor
    · intro hL w hw
      by_contra hn
      exact hn (hL w ((heq w (Nat.not_lt.1 hn)).2 hw))
    · intro hM w hw
      by_contra hn
      exact hn (hM w ((heq w (Nat.not_lt.1 hn)).1 hw))
  increasing := h.increasing
  mem_iff := by
    intro l hl s
    rw [h.mem_iff hl]
    refine and_congr_left fun hs => heq s.toList ?_
    rw [String.length_toList, hs]

end IsLevel

/-! ## The ways of making a language -/

section
variable {L M : Language Char} {f g : Levels} {n : Nat}

/-- level 0 of a language with the empty text -/
theorem isLevel_zero (h : [] ∈ L) : IsLevel L 0 (some [""]) where
  none_iff := iff_of_false (Option.some_ne_none _) fun hnot => Nat.not_lt_zero _ (hnot _ h)
  increasing := by rintro l ⟨⟩; exact List.pairwise_singleton _ _
  mem_iff := by
    rintro l ⟨⟩ s
    rw [List.mem_singleton, String.length_eq_zero_iff]
    exact ⟨fun hs => ⟨hs ▸ h, hs⟩, And.right⟩

theorem isLevel_one (n : Nat) : IsLevel 1 n (Levels.listed [[""]] n) := by
  cases n with
  | zero => exact isLevel_zero Language.nil_mem_one
  | succ n => exact ⟨by simp [Levels.listed, Language.mem_one], by simp [Levels.listed], by simp [Levels.listed]⟩

theorem isLevel_letter {s : String} (hs : s.length = 1) (n : Nat) : IsLevel {s.toList} n (Levels.listed [[], [s]] n) := by
  have hmem : ∀ w, w ∈ ({s.toList} : Language Char) ↔ w = s.toList := fun w => Iff.rfl
  have hlen : s.toList.length = 1 := by rw [String.length_toList, hs]
  match n with
  | 0 =>
    refine ⟨iff_of_false (Option.some_ne_none _) fun h => ?_, fun h => ?_, fun h t => ?_⟩
    · have := h _ ((hmem _).2 rfl); omega
    · cases h; exact List.Pairwise.nil
    · cases h
      rw [hmem, String.toList_inj]
      exact iff_of_false List.not_mem_nil (by rintro ⟨rfl, h⟩; omega)
  | 1 =>
    refine ⟨iff_of_false (Option.some_ne_none _) fun h => ?_, fun h => ?_, fun h t => ?_⟩
    · have := h _ ((hmem _).2 rfl); omega
    · cases h; exact List.pairwise_singleton _ _
    · cases h
      rw [hmem, String.toList_inj, List.mem_singleton]
      exact ⟨fun h => ⟨h, h ▸ hs⟩, And.left⟩
  | n + 2 =>
    refine ⟨iff_of_true rfl fun w hw => ?_, by simp [Levels.listed], by simp [Levels.listed]⟩
    rw [(hmem w).1 hw]
    omega

theorem join_eq_some {x y : Option StringSet} {l : StringSet} (h : Store.join x y = some l) :
    StringSet.union (x.getD []) (y.getD []) = l := by
  cases x <;> cases y <;> cases h <;> rfl

theorem isLevel_union (hf : IsLevel L n (f n)) (hg : IsLevel M n (g n)) : IsLevel (L + M) n (f.union g n) where
  none_iff := by
    rw [Levels.union, Levels.join_eq_none_iff, hf.none_iff, hg.none_iff]
    constructor
    · rintro ⟨hL, hM⟩ w hw
      exact ((Language.mem_add L M w).1 hw).elim (hL w) (hM w)
    · intro h
      exact ⟨fun w hw => h w (Or.inl hw), fun w hw => h w (Or.inr hw)⟩
  increasing := by
    intro l hl
    rw [← join_eq_some hl]
    exact hf.increasing_getD.union hg.increasing_getD
  mem_iff := by
    intro l hl s
    rw [← join_eq_some hl, StringSet.mem_union, hf.mem_getD_iff, hg.mem_getD_iff, Language.mem_add]
    tauto

/-- **Diagonals.** If the first language has no text shorter than `c` and its levels are given from level `c` on, then
the diagonal `n` is level `n + c` of the sequence. -/
theorem isLevel_diagonal {c : Nat} (hc : ∀ w ∈ L, c ≤ w.length) (hf : ∀ i ≤ n, IsLevel L (i + c) (f i))
    (hg : ∀ j ≤ n, IsLevel M j (g j)) : IsLevel (L * M) (n + c) (diagonal f g n) where
  none_iff := by
    rw [diagonal_eq_none_iff]
    constructor
    · intro h w hw
      obtain ⟨x, hx, y, hy, rfl⟩ := Language.mem_mul.1 hw
      by_contra hlen
      rw [List.length_append] at hlen
      have := hc x hx
      -- the longest part of the first text that still fits
      have hfi := (hf (min n (x.length - c)) (by omega)).exists_some hx (by omega)
      have hgj := (hg (n - min n (x.length - c)) (by omega)).exists_some hy (by omega)
      obtain ⟨xs, hxs⟩ := hfi
      obtain ⟨ys, hys⟩ := hgj
      rcases h (min n (x.length - c)) (n - min n (x.length - c)) (by omega) with hnone | hnone
      · rw [hxs] at hnone; cases hnone
      · rw [hys] at hnone; cases hnone
    · rintro h i j rfl
      by_contra hsome
      push Not at hsome
      obtain ⟨x, hx, hi⟩ := (hf i (by omega)).exists_word hsome.1
      obtain ⟨y, hy, hj⟩ := (hg j (by omega)).exists_word hsome.2
      have := h _ (Language.append_mem_mul hx hy)
      rw [List.length_append] at this
      omega
  increasing := by
    intro l hl
    obtain ⟨products, rfl, hproducts⟩ := diagonal_eq_some hl
    refine StringSet.increasing_unions fun p hp => ?_
    obtain ⟨i, j, hij, hp⟩ := (hproducts p).1 hp
    obtain ⟨xs, ys, -, hys, rfl⟩ := product_eq_some_iff.1 hp
    exact StringSet.increasing_append xs ((hg j (by omega)).increasing hys)
  mem_iff := by
    intro l hl s
    obtain ⟨products, rfl, hproducts⟩ := diagonal_eq_some hl
    rw [StringSet.mem_unions, Language.mem_mul]
    constructor
    · rintro ⟨p, hp, hs⟩
      obtain ⟨i, j, rfl, hp⟩ := (hproducts p).1 hp
      obtain ⟨xs, ys, hxs, hys, rfl⟩ := product_eq_some_iff.1 hp
      obtain ⟨x, hx, y, hy, rfl⟩ := (StringSet.mem_append xs ys).1 hs
      obtain ⟨hxL, hxi⟩ := ((hf i (by omega)).mem_iff hxs x).1 hx
      obtain ⟨hyM, hyj⟩ := ((hg j (by omega)).mem_iff hys y).1 hy
      refine ⟨⟨x.toList, hxL, y.toList, hyM, (String.toList_append).symm⟩, ?_⟩
      rw [String.length_append]
      omega
    · rintro ⟨⟨x, hx, y, hy, hs⟩, hlen⟩
      have hxy : x.length + y.length = n + c := by
        rw [← hlen, ← String.length_toList, ← hs, List.length_append]
      have := hc x hx
      obtain ⟨xs, hxs, hxmem⟩ := (hf (x.length - c) (by omega)).exists_mem hx (by omega)
      obtain ⟨ys, hys, hymem⟩ := (hg y.length (by omega)).exists_mem hy rfl
      refine ⟨_, (hproducts _).2 ⟨x.length - c, y.length, by omega, product_eq_some_iff.2 ⟨xs, ys, hxs, hys, rfl⟩⟩, ?_⟩
      refine (StringSet.mem_append xs ys).2 ⟨_, hxmem, _, hymem, ?_⟩
      rw [← String.toList_inj, String.toList_append, String.toList_ofList, String.toList_ofList, hs]

theorem isLevel_seq (hf : ∀ n, IsLevel L n (f n)) (hg : ∀ n, IsLevel M n (g n)) : IsLevel (L * M) n (f.seq g n) :=
  isLevel_diagonal (fun _ _ => Nat.zero_le _) (fun i _ => hf i) fun j _ => hg j

/-- the words of a language that are not empty -/
def nonempty (L : Language Char) : Language Char := {w | w ∈ L ∧ 1 ≤ w.length}

theorem mem_nonempty_iff {w : List Char} : w ∈ nonempty L ↔ w ∈ L ∧ 1 ≤ w.length := Iff.rfl

/-- a word of a repetition begins with a word that is not empty, unless it is empty itself -/
theorem mem_nonempty_mul_kstar_iff {w : List Char} (hw : 1 ≤ w.length) :
    w ∈ nonempty L * KStar.kstar L ↔ w ∈ KStar.kstar L := by
  constructor
  · intro h
    obtain ⟨x, hx, y, hy, rfl⟩ := Language.mem_mul.1 h
    obtain ⟨parts, rfl, hparts⟩ := Language.mem_kstar.1 hy
    exact Language.join_mem_kstar (List.forall_mem_cons.2 ⟨hx.1, hparts⟩)
  · intro h
    obtain ⟨parts, rfl, hparts⟩ := Language.mem_kstar_iff_exists_nonempty.1 h
    cases parts with
    | nil => simp at hw
    | cons x parts =>
      obtain ⟨⟨hx, hne⟩, hrest⟩ := List.forall_mem_cons.1 hparts
      have hrest := Language.join_mem_kstar fun y hy => (hrest y hy).1
      rw [List.flatten_cons]
      exact Language.append_mem_mul (mem_nonempty_iff.2 ⟨hx, List.length_pos_of_ne_nil hne⟩) hrest

theorem isLevel_star (hf : ∀ n, IsLevel L n (f n)) (n : Nat) : IsLevel (KStar.kstar L) n (f.star n) := by
  induction n using Nat.strongRecOn with
  | ind n ih =>
    cases n with
    | zero =>
      rw [Levels.star_zero]
      exact isLevel_zero (Language.nil_mem_kstar L)
    | succ n =>
      rw [Levels.star_succ]
      have hlong : ∀ i ≤ n, IsLevel (nonempty L) (i + 1) (f (i + 1)) := fun i _ =>
        (hf (i + 1)).congr fun w hw => ⟨fun h => ⟨h, by omega⟩, And.left⟩
      exact (isLevel_diagonal (fun _ => And.right) hlong fun j hj => ih j (by omega)).congr fun w hw =>
        mem_nonempty_mul_kstar_iff (by omega)

/-! ## How far the next text may be -/

/-- whatever length there are texts beyond, one of them is at most `p` longer -/
def Gap (L : Language Char) (p : Nat) : Prop :=
  ∀ w ∈ L, ∀ k ≤ w.length, ∃ v ∈ L, k ≤ v.length ∧ v.length ≤ k + p

theorem gap_of_length_le {p : Nat} (h : ∀ w ∈ L, w.length ≤ p) : Gap L p :=
  fun w hw k hk => ⟨w, hw, hk, (h w hw).trans (Nat.le_add_left p k)⟩

variable {p q : Nat}

theorem Gap.mono (h : Gap L p) (hpq : p ≤ q) : Gap L q := by
  intro w hw k hk
  obtain ⟨v, hv, hkv, hvp⟩ := h w hw k hk
  exact ⟨v, hv, hkv, by omega⟩

theorem Gap.add (hL : Gap L p) (hM : Gap M q) : Gap (L + M) (max p q) := by
  intro w hw k hk
  rcases (Language.mem_add L M w).1 hw with hw | hw
  · obtain ⟨v, hv, hkv, hvp⟩ := hL.mono (le_max_left p q) w hw k hk
    exact ⟨v, Or.inl hv, hkv, hvp⟩
  · obtain ⟨v, hv, hkv, hvp⟩ := hM.mono (le_max_right p q) w hw k hk
    exact ⟨v, Or.inr hv, hkv, hvp⟩

theorem Gap.mul (hL : Gap L p) (hM : Gap M q) : Gap (L * M) (p + q) := by
  intro w hw k hk
  obtain ⟨x, hx, y, hy, rfl⟩ := Language.mem_mul.1 hw
  rw [List.length_append] at hk
  obtain ⟨u, hu, hku, hup⟩ := hL x hx (min k x.length) (min_le_right _ _)
  obtain ⟨v, hv, hkv, hvq⟩ := hM y hy (k - x.length) (by omega)
  refine ⟨u ++ v, Language.append_mem_mul hu hv, ?_⟩
  rw [List.length_append]
  omega

/-- a word of the language repeated -/
theorem flatten_replicate_mem_kstar {v : List Char} (hv : v ∈ L) (j : Nat) :
    (List.replicate j v).flatten ∈ KStar.kstar L :=
  Language.join_mem_kstar fun _ hy => List.eq_of_mem_replicate hy ▸ hv

/-- the shortest word that is not empty, often enough -/
theorem Gap.kstar (hL : Gap L p) : Gap (KStar.kstar L) p := by
  intro w hw k hk
  rcases Nat.eq_zero_or_pos k with rfl | hpos
  · exact ⟨[], Language.nil_mem_kstar L, Nat.zero_le _, Nat.zero_le _⟩
  · obtain ⟨x, ⟨hx, hxpos⟩, -⟩ := Language.mem_mul.1 ((mem_nonempty_mul_kstar_iff (hpos.trans_le hk)).2 hw)
    obtain ⟨v, hv, hvpos, hvp⟩ := hL x hx 1 hxpos
    refine ⟨_, flatten_replicate_mem_kstar hv ((k + v.length - 1) / v.length), ?_⟩
    rw [List.length_flatten, List.map_replicate, List.sum_replicate_nat]
    have hdiv := Nat.div_add_mod (k + v.length - 1) v.length
    have hmod := Nat.mod_lt (k + v.length - 1) hvpos
    rw [Nat.mul_comm]
    omega

end

end Language

namespace Regex

/-- the levels of an expression are the texts of each length that it stands for -/
theorem isLevel_levels {e : Regex} (he : e.SingleLetters) (n : Nat) :
    Language.IsLevel e.denotation n (e.levels n) := by
  induction e generalizing n with
  | empty => exact Language.isLevel_one n
  | letter s => exact Language.isLevel_letter he n
  | alt left right ihl ihr => exact Language.isLevel_union (ihl he.1 n) (ihr he.2 n)
  | seq left right ihl ihr => exact Language.isLevel_seq (ihl he.1) (ihr he.2)
  | star inner ih => exact Language.isLevel_star (ih he) n

theorem gap_denotation {e : Regex} (he : e.SingleLetters) : Language.Gap e.denotation e.span := by
  induction e with
  | empty => exact Language.gap_of_length_le (by rintro w rfl; simp)
  | letter s =>
    refine Language.gap_of_length_le ?_
    rintro w rfl
    have : s.length = 1 := he
    rw [String.length_toList]
    exact this.le.trans (Nat.le_succ 1)
  | alt left right ihl ihr => exact (ihl he.1).add (ihr he.2)
  | seq left right ihl ihr => exact (ihl he.1).mul (ihr he.2)
  | star inner ih => exact (ih he).kstar

end Regex

end GrammarLab
