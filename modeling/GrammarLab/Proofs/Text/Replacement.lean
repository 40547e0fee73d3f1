/-
Replacing one character after another.

`replaceEach table` goes through a table of characters and the texts that stand for them, and replaces everywhere in the
text one character at a time. Main statement:
- `replaceEach_eq_flatMap`: if no text of the table has a character in it that is still to be replaced, this is the same as
  replacing all characters in one pass.
-/
import Mathlib.Data.List.Basic

namespace GrammarLab.Text

variable {table : List (Char × List Char)}

/-- the text with `w` for every `c` -/
def replace (c : Char) (w cs : List Char) : List Char := cs.flatMap fun d => if d = c then w else [d]

/-- the text with the characters of a table replaced, one after another -/
def replaceEach (table : List (Char × List Char)) (cs : List Char) : List Char :=
  table.foldl (fun cs entry => replace entry.1 entry.2 cs) cs

/-- what the table has for a character; the character itself if it has nothing -/
def replacement (table : List (Char × List Char)) (d : Char) : List Char := (table.lookup d).getD [d]

theorem replacement_cons (c : Char) (w : List Char) (table : List (Char × List Char)) (d : Char) :
    replacement ((c, w) :: table) d = if d = c then w else replacement table d := by
  rw [replacement, List.lookup_cons]
  by_cases h : d = c
  · simp [h]
  · simp [beq_eq_false_iff_ne.2 h, h, replacement]

/-- a table that has a text for each character of a list -/
theorem replacement_map (w : Char → List Char) (cs : List Char) (d : Char) :
    replacement (cs.map fun c => (c, w c)) d = if d ∈ cs then w d else [d] := by
  induction cs with
  | nil => rfl
  | cons c cs ih =>
    rw [List.map_cons, replacement_cons, ih]
    by_cases h : d = c
    · simp [h]
    · simp [h]

theorem flatMap_replacement_eq_self {cs : List Char} (h : ∀ entry ∈ table, entry.1 ∉ cs) :
    cs.flatMap (replacement table) = cs := by
  have hself : ∀ d ∈ cs, replacement table d = [d] := by
    intro d hd
    have hnone : table.lookup d = none := List.lookup_eq_none_iff.2 fun entry hentry => by
      simpa using fun heq : d = entry.1 => h entry hentry (heq ▸ hd)
    rw [replacement, hnone, Option.getD_none]
  rw [List.flatMap_congr hself, List.flatMap_singleton']

/-- **One pass is enough** where no replacement brings in a character that is replaced later. -/
theorem replaceEach_eq_flatMap (h : table.Pairwise fun entry later => later.1 ∉ entry.2) (cs : List Char) :
    replaceEach table cs = cs.flatMap (replacement table) := by
  induction table generalizing cs with
  | nil => exact (flatMap_replacement_eq_self (by simp)).symm
  | cons entry table ih =>
    obtain ⟨c, w⟩ := entry
    obtain ⟨hw, htable⟩ := List.pairwise_cons.1 h
    calc replaceEach ((c, w) :: table) cs
        = (replace c w cs).flatMap (replacement table) := ih htable _
      _ = cs.flatMap fun d => (if d = c then w else [d]).flatMap (replacement table) := List.flatMap_assoc
      _ = cs.flatMap (replacement ((c, w) :: table)) := by
        refine List.flatMap_congr fun d _ => ?_
        rw [replacement_cons]
        split
        · exact flatMap_replacement_eq_self hw
        · exact List.flatMap_singleton (replacement table) d

end GrammarLab.Text
