/-
The caption of a gallery of derivations is true.

- `exists_enumeration`: the gallery shows what some number of rounds has found, and why it is that number;
- `derivations_caption`: if the caption says that these are all derivation trees, they are; if it names a depth, they are
  those down to that depth. Where neither the depth nor the size is what stopped the enumeration, the caption says that
  these are all if and only if no nonterminal has infinitely many.
-/
import GrammarLab.Gallery
import GrammarLab.Proofs.Derivation.Completion

namespace GrammarLab.Gallery

variable {g : Grammar} {s : Symbol} {e : Enumerator}

theorem derivationsCaption_of_finished (h : e.finished = true) : derivationsCaption e = "All derivation trees" :=
  if_pos h

theorem derivationsCaption_of_not_finished (h : ¬ e.finished = true) :
    derivationsCaption e = "Derivation trees of depth at most " ++ toString e.depth :=
  if_neg h

/-- the two captions differ, whatever the depth -/
theorem derivationsCaption_eq_iff : derivationsCaption e = "All derivation trees" ↔ e.finished = true := by
  refine ⟨fun h => ?_, derivationsCaption_of_finished⟩
  by_contra hnot
  rw [derivationsCaption_of_not_finished hnot] at h
  have hchars : ("Derivation trees of depth at most " ++ toString e.depth).toList = "All derivation trees".toList :=
    congrArg String.toList h
  simp at hchars

/-- **What a gallery shows**: the trees that an enumeration has found, which was finished, failed, or went as deep as it
should -/
theorem exists_enumeration (hb : g.Built) (hs : g.start? = some s) (limit : Int) (maxDepth : Option Int) :
    ∃ n e, Enumerator.Reached g limit n e ∧
      (derivations g limit maxDepth).1 = ⟨derivationsCaption e, ParseTree.sort (g.treesAfter n s)⟩ ∧
      (e.finished = true ∨ (∃ l d, .sizeExceeded l d ∈ (derivations g limit maxDepth).2) ∨
        n = (maxDepth.getD (g.names.length + extraDepth : Nat)).toNat) := by
  set depth := maxDepth.getD (g.names.length + extraDepth : Nat) with hdepth
  have hstart : Enumerator.Reached g limit 0 (.start g limit) := .start
  obtain ⟨n, hreached, hend⟩ := hstart.expandTimes (depth - (Enumerator.start g limit).depth).toNat
  have htrees := hreached.derivations?_eq hb (Grammar.mem_names_of_start? hs)
  refine ⟨n, _, hreached, ?_, ?_⟩
  · simp only [derivations, hs, Enumerator.expandTo, ← hdepth, htrees, Option.getD_some]
  · rcases hend with hdone | ⟨l, d, hevent⟩ | hn
    · exact .inl hdone
    · refine .inr (.inl ⟨l, d, ?_⟩)
      simp only [derivations, hs, Enumerator.expandTo, ← hdepth]
      exact List.mem_append_left _ hevent
    · refine .inr (.inr ?_)
      simpa [Enumerator.start] using hn

/-- the depth that is gone to if none is asked for leaves room for every nonterminal -/
theorem names_length_lt_depth {maxDepth : Option Int} (h : ∀ d ∈ maxDepth, (g.names.length : Int) < d) :
    g.names.length < (maxDepth.getD (g.names.length + extraDepth : Nat)).toNat := by
  cases maxDepth with
  | none =>
    rw [Option.getD_none, Int.toNat_natCast, extraDepth]
    omega
  | some d =>
    have hd : (g.names.length : Int) < d := h d rfl
    rw [Option.getD_some]
    omega

/-- **The caption is true.** "All derivation trees" stands over all derivation trees of the start symbol, and a caption
with a depth over those that go no deeper. With no bound on the depth, or one greater than the number of nonterminals, and
if no round passed the size limit, the caption says "all" exactly if every nonterminal has finitely many trees. -/
theorem derivations_caption (hb : g.Built) (hs : g.start? = some s) (limit : Int) (maxDepth : Option Int) :
    let gallery := (derivations g limit maxDepth).1
    let events := (derivations g limit maxDepth).2
    (gallery.caption = "All derivation trees" → ∀ t, t ∈ gallery.trees ↔ g.Derivation s t) ∧
      (gallery.caption ≠ "All derivation trees" → ∃ d : Nat,
        gallery.caption = "Derivation trees of depth at most " ++ toString d ∧
        ∀ t, t ∈ gallery.trees ↔ g.Derivation s t ∧ t.height ≤ d + 1) ∧
      ((∀ d ∈ maxDepth, (g.names.length : Int) < d) → (∀ l d, .sizeExceeded l d ∉ events) →
        (gallery.caption = "All derivation trees" ↔ ∀ a ∈ g.names, {t | g.Derivation a t}.Finite)) := by
  intro gallery events
  obtain ⟨n, e, hreached, hgallery, hend⟩ := exists_enumeration hb hs limit maxDepth
  have hcaption : gallery.caption = derivationsCaption e := congrArg Gallery.caption hgallery
  have htrees : ∀ t, t ∈ gallery.trees ↔ t ∈ g.treesAfter n s := by
    intro t
    rw [show gallery.trees = ParseTree.sort (g.treesAfter n s) from congrArg Gallery.trees hgallery, ParseTree.mem_sort]
  have hall : gallery.caption = "All derivation trees" ↔ e.finished = true := by
    rw [hcaption, derivationsCaption_eq_iff]
  refine ⟨?_, ?_, ?_⟩
  · intro h t
    rw [htrees, hreached.mem_treesAfter_iff_of_finished hb (hall.1 h)]
  · intro h
    refine ⟨n, ?_, fun t => ?_⟩
    · rw [hcaption, derivationsCaption_of_not_finished (mt hall.2 h), hreached.depth_eq]
    · rw [htrees, Grammar.mem_treesAfter_iff]
  · intro hdeep hsmall
    rw [hall]
    constructor
    · exact hreached.finite_of_finished hb
    · intro hfinite
      rcases hend with hdone | ⟨l, d, hevent⟩ | hn
      · exact hdone
      · exact absurd hevent (hsmall l d)
      · exact hreached.finished_of_finite hb (hn ▸ names_length_lt_depth hdeep) hfinite

/-- a grammar with finitely many trees, of two depths -/
def finiteSample : Grammar := ⟨[⟨"S", [["a", "A"], ["b"]]⟩, ⟨"A", [["c"], []]⟩]⟩

/-- all of them are shown, and the caption says so -/
theorem derivations_caption_finite :
    finiteSample.Built ∧ finiteSample.start? = some "S" ∧
      (derivations finiteSample 100 none).1.caption = "All derivation trees" ∧
      (∀ t, t ∈ (derivations finiteSample 100 none).1.trees ↔ finiteSample.Derivation "S" t) ∧
      (∀ l d, .sizeExceeded l d ∉ (derivations finiteSample 100 none).2) ∧
      ∀ a ∈ finiteSample.names, {t | finiteSample.Derivation a t}.Finite := by
  have hb : finiteSample.Built := ⟨[("S", ["a", "A"]), ("S", ["b"]), ("A", ["c"]), ("A", [])], by rfl⟩
  obtain ⟨hall, -, hfinite⟩ := derivations_caption hb rfl 100 none
  have hcaption : (derivations finiteSample 100 none).1.caption = "All derivation trees" := by decide +kernel
  have hevents : (derivations finiteSample 100 none).2 =
      [.round 1 3 6, .round 2 5 24, .round 3 5 42, .gallery "All derivation trees" 3] := by decide +kernel
  have hsmall : ∀ l d, .sizeExceeded l d ∉ (derivations finiteSample 100 none).2 := by simp [hevents]
  exact ⟨hb, rfl, hcaption, hall hcaption, hsmall, (hfinite (by simp) hsmall).1 hcaption⟩

end GrammarLab.Gallery
