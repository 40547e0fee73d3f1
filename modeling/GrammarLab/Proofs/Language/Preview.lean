/-
The preview of a language: its loop comes to an end, and shows what can be paid for.

`Shows` is the loop as a relation, text by text: each text is paid for, an ellipsis takes the place of the first that cannot
be, and a further level is read when there is no text left. It has no patience with empty levels, so a loop that reads
empty levels for ever shows nothing at all.
- `shows_shownFrom`: the loop ends, with what `shownFrom` gives, where patience is never exhausted;
- `Shows.unique`: it ends in one way only;
- `Shows.affords`: what it shows are texts from the first on, and it stops at the first that it cannot pay for;
- `preview_exact`: the preview shows the longest beginning of the texts of the expression that the limit pays for.
-/
import GrammarLab.Language.Preview
import GrammarLab.Proofs.Language.Strings

namespace GrammarLab

namespace Language

variable {L : Language Char} {f : Levels} {m : Nat → Levels} {i k p : Nat} {remaining : Int}
  {items pending r out out' : List String} {more : Bool} {store : Store}

/-! ## The loop -/

/-- what the loop shows from a state on: level `k` of language `i` is read next, the texts `pending` come before it, and
`remaining` may still be spent -/
inductive Shows (i : Nat) : Nat → Int → List String → Store → List String → Prop
  /-- a text that can be paid for -/
  | item {k s pending store out} {remaining : Int} (hcost : 0 ≤ remaining - (s.length + 2))
      (hrest : Shows i k (remaining - (s.length + 2)) pending store out) : Shows i k remaining (s :: pending) store (s :: out)
  /-- a text that cannot -/
  | stop {k s pending store} {remaining : Int} (hcost : remaining - (s.length + 2) < 0) :
      Shows i k remaining (s :: pending) store ["..."]
  /-- a further level -/
  | level {k remaining l store store' out} (hlevel : store.level i k = (some l, store'))
      (hrest : Shows i (k + 1) remaining l store' out) : Shows i k remaining [] store out
  /-- no further level -/
  | finish {k remaining store store'} (hlevel : store.level i k = (none, store')) : Shows i k remaining [] store []

/-- the loop ends in one way only -/
theorem Shows.unique (h : Shows i k remaining pending store out) (h' : Shows i k remaining pending store out') :
    out = out' := by
  induction h generalizing out' with
  | item hcost _ ih =>
    cases h' with
    | item _ hrest => rw [ih hrest]
    | stop hcost' => omega
  | stop hcost =>
    cases h' with
    | item hcost' _ => omega
    | stop _ => rfl
  | level hlevel _ ih =>
    cases h' with
    | level hlevel' hrest =>
      rw [hlevel] at hlevel'
      cases hlevel'
      exact ih hrest
    | finish hlevel' =>
      rw [hlevel] at hlevel'
      cases hlevel'
  | finish hlevel =>
    cases h' with
    | level hlevel' _ =>
      rw [hlevel] at hlevel'
      cases hlevel'
    | finish _ => rfl

/-- where there is nothing to spend, it does not matter how much is missing -/
theorem Shows.of_zero (h : Shows i k 0 pending store out) (hle : remaining ≤ 0) : Shows i k remaining pending store out := by
  generalize hzero : (0 : Int) = zero at h
  induction h with
  | item hcost _ _ => omega
  | stop _ => exact .stop (by omega)
  | level hlevel _ ih => exact .level hlevel (ih hzero)
  | finish hlevel => exact .finish hlevel

/-- the texts of a level that can all be paid for are shown before what comes after them -/
theorem shows_of_spend_some {budget rest : Nat} {l : List String} (h : (spend budget l).2 = some rest)
    (hrest : Shows i k rest [] store out) : Shows i k budget l store ((spend budget l).1 ++ out) := by
  fun_induction spend budget l with
  | case1 budget =>
    cases h
    exact hrest
  | case2 budget s l hcost => cases h
  | case3 budget s l hcost shown rest' hspend ih =>
    have hleft : ((budget - (s.length + 2) : Nat) : Int) = (budget : Int) - (s.length + 2) := by omega
    rw [hspend] at ih
    exact .item (by omega) (hleft ▸ ih h)

/-- the texts of a level that can be paid for are shown before the ellipsis for the first that cannot -/
theorem shows_of_spend_none {budget : Nat} {l : List String} (h : (spend budget l).2 = none) :
    Shows i k budget l store ((spend budget l).1 ++ ["..."]) := by
  fun_induction spend budget l with
  | case1 budget => cases h
  | case2 budget s l hcost => exact .stop (by omega)
  | case3 budget s l hcost shown rest' hspend ih =>
    have hleft : ((budget - (s.length + 2) : Nat) : Int) = (budget : Int) - (s.length + 2) := by omega
    rw [hspend] at ih
    exact .item (by omega) (hleft ▸ ih h)

/-- **The loop ends.** Patience is never exhausted, and so it makes no difference. -/
theorem shows_shownFrom (i p k budget empties : Nat) (store : Store) (hp : Patient (m i) p) (h : Explained m store)
    (hempty : EmptyBefore (m i) k empties) : Shows i k budget [] store (shownFrom i p k budget empties store) := by
  fun_induction shownFrom i p k budget empties store with
  | case1 k budget empties store t hlevel => exact .finish hlevel
  | case2 k budget empties store t hlevel _ ih =>
    obtain ⟨hk, hadv⟩ := level_spec h i k
    rw [hlevel] at hk hadv
    exact .level hlevel (ih hadv.explained (hempty.push hk.symm))
  | case3 k budget empties store t hlevel hstop =>
    obtain ⟨hk, -⟩ := level_spec h i k
    rw [hlevel] at hk
    exact absurd (hempty.lt_of_patient hp hk.symm) hstop
  | case4 k budget empties store s l t hlevel shown hspend =>
    have hstop : Shows i (k + 1) budget (s :: l) t _ := shows_of_spend_none (congrArg Prod.snd hspend)
    rw [hspend] at hstop
    exact .level hlevel hstop
  | case5 k budget empties store s l t hlevel shown rest hspend ih =>
    obtain ⟨-, hadv⟩ := level_spec h i k
    rw [hlevel] at hadv
    have honward := shows_of_spend_some (congrArg Prod.snd hspend) (ih hadv.explained (emptyBefore_zero _ _))
    rw [hspend] at honward
    exact .level hlevel honward

/-! ## What it shows -/

/-- what it costs to show some texts -/
def cost : List String → Nat
  | [] => 0
  | s :: r => s.length + 2 + cost r

@[simp] theorem cost_nil : cost [] = 0 := rfl

@[simp] theorem cost_cons (s : String) (r : List String) : cost (s :: r) = s.length + 2 + cost r := rfl

theorem cost_append (r r' : List String) : cost (r ++ r') = cost r + cost r' := by
  induction r with
  | nil => rw [List.nil_append, cost_nil, Nat.zero_add]
  | cons s r ih => rw [List.cons_append, cost_cons, cost_cons, ih, Nat.add_assoc (s.length + 2)]

theorem cost_le_of_prefix {r r' : List String} (h : r <+: r') : cost r ≤ cost r' := by
  obtain ⟨later, rfl⟩ := h
  rw [cost_append]
  exact Nat.le_add_right _ _

/-- the sign that there are more texts -/
def ellipsis (more : Bool) : List String := if more then ["..."] else []

/-- `items` are the texts that can be paid for of `pending` and the levels from `k` on: all of them, or there is one more,
which cannot be paid for -/
inductive Affords (f : Levels) (k : Nat) (remaining : Int) (pending items : List String) : Bool → Prop
  | all {c} (htexts : pending ++ texts f k c = items) (hend : f (k + c) = none)
      (hcost : (cost items : Int) ≤ max remaining 0) : Affords f k remaining pending items false
  | stop {c s later} (htexts : pending ++ texts f k c = items ++ s :: later) (hcost : (cost items : Int) ≤ max remaining 0)
      (hnext : remaining < cost items + (s.length + 2)) : Affords f k remaining pending items true

theorem Affords.item {s : String} (h : Affords f k (remaining - (s.length + 2)) pending items more)
    (hcost : 0 ≤ remaining - (s.length + 2)) : Affords f k remaining (s :: pending) (s :: items) more := by
  cases h with
  | all htexts hend hle => exact .all (congrArg (s :: ·) htexts) hend (by rw [cost_cons]; omega)
  | stop htexts hle hnext => exact .stop (congrArg (s :: ·) htexts) (by rw [cost_cons]; omega) (by rw [cost_cons]; omega)

theorem Affords.level {l : List String} (h : Affords f (k + 1) remaining l items more) (hk : f k = some l) :
    Affords f k remaining [] items more := by
  have htexts : ∀ c, [] ++ texts f k (c + 1) = l ++ texts f (k + 1) c := fun c => by
    rw [List.nil_append, texts, hk, Option.getD_some]
  cases h with
  | all heq hend hle => exact .all ((htexts _).trans heq) (by rwa [Nat.add_right_comm] at hend) hle
  | stop heq hle hnext => exact .stop ((htexts _).trans heq) hle hnext

/-- the loop shows what can be paid for, and an ellipsis if this is not all -/
theorem Shows.affords (h : Shows i k remaining pending store out) (hm : Explained m store) :
    ∃ items more, out = items ++ ellipsis more ∧ Affords (m i) k remaining pending items more := by
  induction h with
  | item hcost _ ih =>
    obtain ⟨items, more, rfl, haffords⟩ := ih hm
    exact ⟨_, more, rfl, haffords.item hcost⟩
  | @stop k s pending store remaining hcost =>
    refine ⟨[], true, rfl, .stop (c := 0) (List.append_nil _) (le_max_right _ _) ?_⟩
    rw [cost_nil]
    omega
  | @level k remaining l store store' out hlevel _ ih =>
    obtain ⟨hk, hadv⟩ := level_spec hm i k
    rw [hlevel] at hk hadv
    obtain ⟨items, more, rfl, haffords⟩ := ih hadv.explained
    exact ⟨items, more, rfl, haffords.level hk.symm⟩
  | @finish k remaining store store' hlevel =>
    obtain ⟨hk, -⟩ := level_spec hm i k
    rw [hlevel] at hk
    exact ⟨[], false, rfl, .all (c := 0) rfl hk.symm (le_max_right _ _)⟩

namespace Affords

theorem cost_le (h : Affords f k remaining pending items more) : (cost items : Int) ≤ max remaining 0 := by
  cases h <;> assumption

/-- what is shown are the texts of the set from the first on -/
theorem listing (h : Affords f 0 remaining [] items more) (hf : ∀ n, IsLevel L n (f n)) :
    Listing L items.length items := by
  apply IsFirst.listing hf
  cases h with
  | all htexts _ _ => exact ⟨_, by rw [← htexts, List.nil_append, List.take_length], Or.inl rfl⟩
  | stop htexts _ _ => exact ⟨_, by rw [← List.nil_append (texts _ _ _), htexts, List.take_left], Or.inl rfl⟩

/-- without an ellipsis, all texts of the set are shown -/
theorem mem_of_all (h : Affords f 0 remaining [] items false) (hf : ∀ n, IsLevel L n (f n)) {s : String}
    (hs : s.toList ∈ L) : s ∈ items := by
  cases h with
  | @all c htexts hend _ =>
    rw [← htexts, List.nil_append, mem_texts_iff hf]
    have hlen := (hf _).none_iff.1 hend _ hs
    rw [String.length_toList] at hlen
    exact ⟨hs, Nat.zero_le _, hlen⟩

/-- with one, there is a next text, which would cost too much -/
theorem exists_next (h : Affords f 0 remaining [] items true) (hf : ∀ n, IsLevel L n (f n)) :
    ∃ s : String, Listing L (items ++ [s]).length (items ++ [s]) ∧ remaining < cost (items ++ [s]) := by
  cases h with
  | @stop c s later htexts _ hnext =>
    refine ⟨s, IsFirst.listing hf ⟨c, ?_, Or.inl rfl⟩, ?_⟩
    · rw [← List.nil_append (texts _ _ _), htexts, List.append_cons items s later, List.take_left]
    · rw [cost_append, cost_cons, cost_nil]
      omega

/-- **The longest beginning that can be paid for.** The beginnings of the texts of the set that can be paid for are the
beginnings of what is shown. -/
theorem cost_le_iff (h : Affords f 0 remaining [] items more) (hf : ∀ n, IsLevel L n (f n)) (hr : Listing L r.length r) :
    (cost r : Int) ≤ max remaining 0 ↔ r <+: items := by
  constructor
  · intro hcost
    rcases Nat.lt_or_ge items.length r.length with hlt | hle
    · exfalso
      cases more with
      | false =>
        -- no text is left for the longer one
        have hsub : r ⊆ items := fun s hs => h.mem_of_all hf (hr.sound s hs)
        have hnodup : r.Nodup := hr.ordered.imp Before.ne
        exact Nat.not_le_of_lt hlt (hnodup.subperm hsub).length_le
      | true =>
        -- the longer one has to pay for the next text too
        obtain ⟨s, hlisting, hnext⟩ := h.exists_next hf
        have hprefix := cost_le_of_prefix (hlisting.isPrefix hr (by rw [List.length_append]; exact hlt))
        have hpos : 0 < cost (items ++ [s]) := by
          rw [cost_append, cost_cons]
          omega
        omega
    · exact hr.isPrefix (h.listing hf) hle
  · intro hprefix
    have hcost := cost_le_of_prefix hprefix
    have hle := h.cost_le
    omega

/-- an ellipsis is shown just if the set has a further text -/
theorem more_iff (h : Affords f 0 remaining [] items more) (hf : ∀ n, IsLevel L n (f n)) :
    more = true ↔ ∃ s : String, s.toList ∈ L ∧ s ∉ items := by
  cases more with
  | false => exact iff_of_false Bool.false_ne_true fun ⟨s, hs, hnot⟩ => hnot (h.mem_of_all hf hs)
  | true =>
    obtain ⟨s, hlisting, -⟩ := h.exists_next hf
    have hlast := List.pairwise_append.1 hlisting.ordered
    refine iff_of_true rfl ⟨s, hlisting.sound s (List.mem_append_right _ (List.mem_singleton_self s)), fun hmem => ?_⟩
    exact (hlast.2.2 s hmem s (List.mem_singleton_self s)).ne rfl

end Affords

/-! ## The line -/

/-- a text as it is shown: the empty text has a sign -/
def visible (s : String) : String := if s.isEmpty then emptySign else s

theorem not_before_empty (s : String) : ¬ Before s "" := by
  intro h
  rcases h with h | ⟨hlen, h⟩
  · exact Nat.not_lt_zero _ h
  · rw [String.length_eq_zero_iff.1 hlen] at h
    exact String.lt_irrefl "" h

/-- only the first text can be empty -/
theorem markEmpty_eq (h : items.Pairwise Before) (more : Bool) :
    Regex.markEmpty (items ++ ellipsis more) = items.map visible ++ ellipsis more := by
  cases items with
  | nil => cases more <;> rfl
  | cons s items =>
    have hrest : items.map visible = items := by
      refine (List.map_congr_left fun t ht => ?_).trans (List.map_id items)
      have hbefore := (List.pairwise_cons.1 h).1 t ht
      refine if_neg fun hempty => not_before_empty s ?_
      rwa [String.isEmpty_iff.1 hempty] at hbefore
    rw [List.cons_append, Regex.markEmpty, List.map_cons, hrest]
    rfl

/-- **The preview of a language.** The loop of the preview ends, and it ends with what the preview shows. The items are
texts of the expression from the first on, and those are the longest beginning that the limit pays for: a beginning of the
texts can be paid for just if it is a beginning of the items. A limit below 0 pays for as little as 0. An ellipsis stands
after them just if the expression has a further text. -/
theorem preview_exact (e : Regex) (he : e.SingleLetters) (limit : Int) :
    let i := (Store.addRegex #[] e).1
    let store := (Store.addRegex #[] e).2
    (∀ out, Shows i 0 limit [] store out ↔ out = e.shown limit) ∧
      ∃ items more, e.shown limit = items ++ ellipsis more ∧
        e.preview limit = "\x7b " ++ ", ".intercalate (items.map visible ++ ellipsis more) ++ " \x7d" ∧
        Listing e.denotation items.length items ∧
        (∀ r, Listing e.denotation r.length r → ((cost r : Int) ≤ max limit 0 ↔ r <+: items)) ∧
        (more = true ↔ ∃ s : String, s.toList ∈ e.denotation ∧ s ∉ items) := by
  intro i store
  obtain ⟨m, hmade⟩ := made_addRegex e _ _ explained_empty
  have hlevels : ∀ n, IsLevel e.denotation n (m i n) := by
    rw [hmade.levels_eq]
    exact Regex.isLevel_levels he
  have hpatient : Patient (m i) (store.span i) := by
    rw [hmade.span_eq]
    exact (Regex.gap_denotation he).patient (hmade.levels_eq ▸ hlevels)
  have hends : Shows i 0 limit [] store (e.shown limit) := by
    have hnat := shows_shownFrom i _ 0 limit.toNat 0 store hpatient hmade.explained (emptyBefore_zero _ _)
    rcases le_total 0 limit with hle | hle
    · rwa [Int.toNat_of_nonneg hle] at hnat
    · have hzero : ((limit.toNat : Nat) : Int) = 0 := by omega
      rw [hzero] at hnat
      exact hnat.of_zero hle
  obtain ⟨items, more, hshown, haffords⟩ := hends.affords hmade.explained
  refine ⟨fun out => ⟨fun h => h.unique hends, fun h => h ▸ hends⟩, items, more, hshown, ?_, haffords.listing hlevels,
    fun r hr => haffords.cost_le_iff hlevels hr, haffords.more_iff hlevels⟩
  rw [Regex.preview, hshown, markEmpty_eq (haffords.listing hlevels).ordered]

/-- the texts of `a` only -/
def repeatedSample : Regex := .star (.letter "a")

/-- with enough for two texts -/
theorem preview_exact_repeated :
    repeatedSample.SingleLetters ∧
      Shows (Store.addRegex #[] repeatedSample).1 0 8 [] (Store.addRegex #[] repeatedSample).2 ["", "a", "..."] ∧
      repeatedSample.shown 8 = ["", "a", "..."] := by
  have hsingle : repeatedSample.SingleLetters := by decide
  have hshows : Shows (Store.addRegex #[] repeatedSample).1 0 8 [] (Store.addRegex #[] repeatedSample).2
      ["", "a", "..."] := by
    refine .level (l := [""]) (Prod.ext ?_ rfl) (.item (by decide) ?_)
    · decide +kernel
    refine .level (l := ["a"]) (Prod.ext ?_ rfl) (.item (by decide) ?_)
    · decide +kernel
    refine .level (l := ["aa"]) (Prod.ext ?_ rfl) (.stop (by decide))
    decide +kernel
  exact ⟨hsingle, hshows, (((preview_exact _ hsingle 8).1 _).1 hshows).symm⟩

end Language

end GrammarLab
