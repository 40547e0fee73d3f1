/-
Labels of a graph in quotes.

Main statement:
- `escape_exact`: to protect one special character after another is to put one backslash before each of them, in one pass.
  So the text can be told from its protected form, every quote in it has an odd number of backslashes before it, and
  whoever reads a quoted label reads on behind the text.
-/
import GrammarLab.Tree.Dot
import GrammarLab.Proofs.Text.Replacement
import Mathlib.Algebra.Ring.Parity

namespace GrammarLab.Dot

open Text (replace replaceEach replacement)

/-- one character of a protected text -/
def guarded (c : Char) : List Char := if c ∈ specials then ['\\', c] else [c]

/-- a protected text without the backslash of each pair -/
def unprotect : List Char → List Char
  | [] => []
  | ['\\'] => ['\\']
  | '\\' :: c :: cs => c :: unprotect cs
  | c :: cs => c :: unprotect cs

/-- a quoted label up to the quote that ends it, and what comes after; a backslash keeps the next character from ending it -/
def readQuoted : List Char → Option (List Char × List Char)
  | [] => none
  | '\x22' :: rest => some ([], rest)
  | ['\\'] => none
  | '\\' :: c :: cs => (readQuoted cs).map fun r => (c :: r.1, r.2)
  | c :: cs => (readQuoted cs).map fun r => (c :: r.1, r.2)

/-- how many backslashes a text ends in -/
def backslashes (cs : List Char) : Nat := (cs.reverse.takeWhile (· = '\\')).length

/-! ## One pass -/

/-- each special character with its protected form, in the order in which they are protected -/
def protections : List (Char × List Char) := specials.map fun c => (c, ['\\', c])

theorem pairwise_protections : protections.Pairwise fun entry later => later.1 ∉ entry.2 := by decide

theorem replacement_protections : replacement protections = guarded := by
  funext c
  exact Text.replacement_map (fun c => ['\\', c]) specials c

theorem protect_eq_replace (c : Char) (cs : List Char) : protect c cs = replace c ['\\', c] cs := by
  unfold protect replace
  refine List.flatMap_congr fun d _ => ?_
  by_cases h : d = c
  · simp [h]
  · simp [h]

/-- to protect one special character after another is to go through the text once -/
theorem toList_escape (s : String) : (escape s).toList = s.toList.flatMap guarded := by
  unfold escape
  rw [String.toList_ofList]
  calc specials.foldl (fun cs c => protect c cs) s.toList
      = replaceEach protections s.toList := by
        rw [replaceEach, protections, List.foldl_map]
        simp only [protect_eq_replace]
    _ = s.toList.flatMap guarded := by
        rw [Text.replaceEach_eq_flatMap pairwise_protections, replacement_protections]

/-! ## Reading a protected text -/

theorem guarded_of_mem {c : Char} (h : c ∈ specials) : guarded c = ['\\', c] := if_pos h

theorem guarded_of_not_mem {c : Char} (h : c ∉ specials) : guarded c = [c] := if_neg h

/-- a character that is not special is no backslash and no quote -/
theorem ne_of_not_mem_specials {c : Char} (h : c ∉ specials) : c ≠ '\\' ∧ c ≠ '\x22' := by
  constructor
  · rintro rfl
    exact h (by decide)
  · rintro rfl
    exact h (by decide)

theorem unprotect_guarded (c : Char) (cs : List Char) : unprotect (guarded c ++ cs) = c :: unprotect cs := by
  by_cases h : c ∈ specials
  · rw [guarded_of_mem h]
    rfl
  · rw [guarded_of_not_mem h, List.singleton_append, unprotect]
    · intro hc
      exact absurd hc (ne_of_not_mem_specials h).1
    · intro d ds hc
      exact absurd hc (ne_of_not_mem_specials h).1

theorem unprotect_flatMap_guarded (cs : List Char) : unprotect (cs.flatMap guarded) = cs := by
  induction cs with
  | nil => rfl
  | cons c cs ih => rw [List.flatMap_cons, unprotect_guarded, ih]

theorem unprotect_escape (s : String) : unprotect (escape s).toList = s.toList := by
  rw [toList_escape, unprotect_flatMap_guarded]

theorem escape_injective : Function.Injective escape := by
  intro s s' h
  apply String.toList_inj.1
  rw [← unprotect_escape s, h, unprotect_escape s']

theorem readQuoted_guarded (c : Char) (cs : List Char) :
    readQuoted (guarded c ++ cs) = (readQuoted cs).map fun r => (c :: r.1, r.2) := by
  by_cases h : c ∈ specials
  · rw [guarded_of_mem h]
    rfl
  · rw [guarded_of_not_mem h, List.singleton_append, readQuoted]
    · exact (ne_of_not_mem_specials h).2
    · intro hc
      exact absurd hc (ne_of_not_mem_specials h).1
    · intro d ds hc
      exact absurd hc (ne_of_not_mem_specials h).1

/-- nothing in a protected text ends a quoted label -/
theorem readQuoted_flatMap_guarded (cs more : List Char) :
    readQuoted (cs.flatMap guarded ++ more) = (readQuoted more).map fun r => (cs ++ r.1, r.2) := by
  induction cs with
  | nil => simp
  | cons c cs ih =>
    rw [List.flatMap_cons, List.append_assoc, readQuoted_guarded, ih, Option.map_map]
    rfl

/-! ## The backslashes before a quote -/

theorem backslashes_append (cs ds : List Char) :
    backslashes (cs ++ ds) = if backslashes ds = ds.length then ds.length + backslashes cs else backslashes ds := by
  unfold backslashes
  rw [List.reverse_append, List.takeWhile_append, List.length_reverse]
  split
  · rw [List.length_append, List.length_reverse]
  · rfl

theorem even_backslashes_guarded (c : Char) : Even (backslashes (guarded c)) := by
  by_cases h : c ∈ specials
  · rw [guarded_of_mem h]
    by_cases hc : c = '\\'
    · subst hc
      decide
    · simp [backslashes, hc]
  · rw [guarded_of_not_mem h]
    simp [backslashes, (ne_of_not_mem_specials h).1]

/-- a protected character in front of a text changes nothing about what comes before a quote in it -/
theorem odd_backslashes_guarded {c : Char} {cs : List Char} (h : Odd (backslashes cs)) :
    Odd (backslashes (guarded c ++ cs)) := by
  rw [backslashes_append]
  split
  · rename_i hall
    rw [← hall]
    exact h.add_even (even_backslashes_guarded c)
  · exact h

/-- a quote that stands for itself is protected -/
theorem eq_of_guarded {c : Char} {before rest : List Char} (h : guarded c = before ++ '\x22' :: rest) :
    before = ['\\'] := by
  by_cases hc : c ∈ specials
  · rw [guarded_of_mem hc] at h
    rcases before with _ | ⟨a, before⟩
    · simp at h
    · rcases before with _ | ⟨b, before⟩
      · obtain ⟨rfl, -⟩ := List.cons.inj h
        rfl
      · simp at h
  · rw [guarded_of_not_mem hc] at h
    rcases before with _ | ⟨a, before⟩
    · exact absurd (List.cons.inj h).1 (ne_of_not_mem_specials hc).2
    · simp at h

theorem odd_backslashes {cs before after : List Char} (h : cs.flatMap guarded = before ++ '\x22' :: after) :
    Odd (backslashes before) := by
  induction cs generalizing before with
  | nil => simp at h
  | cons c cs ih =>
    rw [List.flatMap_cons] at h
    rcases List.append_eq_append_iff.1 h with ⟨rest, rfl, hrest⟩ | ⟨inside, hinside, hrest⟩
    · exact odd_backslashes_guarded (ih hrest)
    · rcases inside with _ | ⟨d, inside⟩
      · rw [List.append_nil] at hinside
        rw [← hinside, ← List.append_nil (guarded c)]
        exact odd_backslashes_guarded (ih hrest.symm)
      · obtain ⟨rfl, -⟩ := List.cons.inj hrest
        rw [eq_of_guarded hinside]
        decide

/-- **Protecting a text.** To protect the special characters one after another puts one backslash before each of them and
changes nothing else. So the text can be had back, different texts have different protected forms, every quote has an odd
number of backslashes before it, and whoever reads a quoted label reads on behind the protected text. -/
theorem escape_exact (s : String) :
    (escape s).toList = s.toList.flatMap (fun c => if c ∈ specials then ['\\', c] else [c]) ∧
      unprotect (escape s).toList = s.toList ∧ (∀ s', escape s' = escape s → s' = s) ∧
      (∀ before after, (escape s).toList = before ++ '\x22' :: after →
        Odd (before.reverse.takeWhile (· = '\\')).length) ∧
      ∀ more, readQuoted ((escape s).toList ++ more) = (readQuoted more).map fun r => (s.toList ++ r.1, r.2) := by
  refine ⟨toList_escape s, unprotect_escape s, fun s' h => escape_injective h, ?_, ?_⟩
  · intro before after h
    rw [toList_escape] at h
    exact odd_backslashes h
  · intro more
    rw [toList_escape]
    exact readQuoted_flatMap_guarded s.toList more

end GrammarLab.Dot
