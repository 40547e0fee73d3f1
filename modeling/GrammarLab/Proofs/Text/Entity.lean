/-
Entities undone.

Main statements, for the text that is written for the content of an element:
- `decodeEntities_escapeEntities`: undoing the five entities gives the text back;
- `plain_of_mem_escapeEntities`: it has no angle bracket and no quote;
- `toList_escapeEntities_eq_replaceEach`: it does not matter that the characters are replaced in one pass. Replacing them
  one after another, the ampersand first, has the same result.
-/
import GrammarLab.Text.Entity
import GrammarLab.Proofs.Text.Replacement

namespace GrammarLab.Text

/-- a text with the five entities undone, from left to right -/
def decodeEntities : List Char → List Char
  | '&' :: 'a' :: 'm' :: 'p' :: ';' :: cs => '&' :: decodeEntities cs
  | '&' :: 'l' :: 't' :: ';' :: cs => '<' :: decodeEntities cs
  | '&' :: 'g' :: 't' :: ';' :: cs => '>' :: decodeEntities cs
  | '&' :: 'q' :: 'u' :: 'o' :: 't' :: ';' :: cs => '\x22' :: decodeEntities cs
  | '&' :: '#' :: 'x' :: '2' :: '7' :: ';' :: cs => '\x27' :: decodeEntities cs
  | c :: cs => c :: decodeEntities cs
  | [] => []

theorem decodeEntities_cons_of_ne {c : Char} (h : c ≠ '&') (cs : List Char) :
    decodeEntities (c :: cs) = c :: decodeEntities cs := by
  rw [decodeEntities]
  all_goals
    intro _ hc
    exact absurd hc h

theorem decodeEntities_entity_append (c : Char) (cs : List Char) :
    decodeEntities (entity c ++ cs) = c :: decodeEntities cs := by
  unfold entity
  split_ifs with hamp hlt hgt hquote hapostrophe
  · subst hamp
    rfl
  · subst hlt
    rfl
  · subst hgt
    rfl
  · subst hquote
    rfl
  · subst hapostrophe
    rfl
  · exact decodeEntities_cons_of_ne hamp cs

theorem toList_escapeEntities (s : String) : (escapeEntities s).toList = s.toList.flatMap entity := by
  rw [escapeEntities, String.toList_ofList]

/-- **Texts come back.** -/
theorem decodeEntities_escapeEntities (s : String) : decodeEntities (escapeEntities s).toList = s.toList := by
  rw [toList_escapeEntities]
  induction s.toList with
  | nil => rfl
  | cons c cs ih => rw [List.flatMap_cons, decodeEntities_entity_append, ih]

/-- neither a bracket nor a quote -/
def plain (c : Char) : Bool := c != '<' && c != '>' && c != '\x22'

/-- a character of a class that has no brackets and no quotes in it -/
theorem plain_of_class {f : Char → Bool} {c : Char} (h : f c = true) (hopen : f '<' = false) (hclose : f '>' = false)
    (hquote : f '\x22' = false) : plain c = true := by
  have hne : ∀ d : Char, f d = false → c ≠ d := by
    intro d hd heq
    rw [heq, hd] at h
    cases h
  simp [plain, hne '<' hopen, hne '>' hclose, hne '\x22' hquote]

theorem all_plain_entity (c : Char) : (entity c).all plain = true := by
  unfold entity
  split_ifs with hamp hlt hgt hquote hapostrophe
  · decide
  · decide
  · decide
  · decide
  · decide
  · simp [plain, hlt, hgt, hquote]

theorem plain_of_mem_escapeEntities {s : String} {d : Char} (h : d ∈ (escapeEntities s).toList) : plain d = true := by
  rw [toList_escapeEntities] at h
  obtain ⟨c, -, hc⟩ := List.mem_flatMap.1 h
  exact List.all_eq_true.1 (all_plain_entity c) d hc

/-- each of the five characters with its entity, the ampersand first -/
def entities : List (Char × List Char) :=
  [('&', "&amp;".toList), ('<', "&lt;".toList), ('>', "&gt;".toList), ('\x22', "&quot;".toList), ('\x27', "&#x27;".toList)]

theorem replacement_entities : replacement entities = entity := by
  funext c
  simp only [entities, replacement_cons, entity]
  rfl

/-- **Replacing one character after another has the same result**, if the ampersand is the first. -/
theorem toList_escapeEntities_eq_replaceEach (s : String) : (escapeEntities s).toList = replaceEach entities s.toList := by
  have hpairs : entities.Pairwise fun entry later => later.1 ∉ entry.2 := by decide
  rw [toList_escapeEntities, replaceEach_eq_flatMap hpairs, replacement_entities]

end GrammarLab.Text
