/-
Parse trees.

A leaf is a terminal; a node is a nonterminal with the trees of the symbols that it was replaced by. A node without
children stands for an empty replacement: it is drawn with an `ε` beneath it, so it is two levels high and one column
wide. Equality is decided by recursion on the two trees.
-/
import GrammarLab.Grammar.Basic

namespace GrammarLab

/-- a derivation of a symbol -/
inductive ParseTree where
  | leaf (symbol : Symbol)
  | node (symbol : Symbol) (children : List ParseTree)
deriving Repr, Inhabited

namespace ParseTree

/-- the symbol at the root -/
def symbol : ParseTree → Symbol
  | leaf s => s
  | node s _ => s

/-- the trees below the root -/
def children : ParseTree → List ParseTree
  | leaf _ => []
  | node _ cs => cs

/-- the symbol at the root, if it is a nonterminal -/
def nonTerminal? : ParseTree → Option Symbol
  | leaf _ => none
  | node s _ => some s

/-! ## Measures -/

mutual

/-- the number of levels, the `ε` of an empty replacement included -/
def height : ParseTree → Nat
  | leaf _ => 1
  | node _ [] => 2
  | node _ (c :: cs) => 1 + max c.height (maxHeight cs)

/-- the height of the highest of the trees -/
def maxHeight : List ParseTree → Nat
  | [] => 0
  | c :: cs => max c.height (maxHeight cs)

end

mutual

/-- the number of columns: one for every leaf and every `ε` -/
def width : ParseTree → Nat
  | leaf _ => 1
  | node _ cs => max 1 (totalWidth cs)

/-- the number of columns of the trees side by side -/
def totalWidth : List ParseTree → Nat
  | [] => 0
  | c :: cs => c.width + totalWidth cs

end

mutual

/-- the terminals from left to right -/
def leaves : ParseTree → List Symbol
  | leaf s => [s]
  | node _ cs => allLeaves cs

/-- the terminals of the trees side by side -/
def allLeaves : List ParseTree → List Symbol
  | [] => []
  | c :: cs => c.leaves ++ allLeaves cs

end

/-- the text that the tree derives -/
def sentence (t : ParseTree) : String := String.join t.leaves

/-- the room that a tree takes, levels times columns -/
def size (t : ParseTree) : Nat := t.height * t.width

mutual

/-- a tree on one line: a symbol, and for a node its children in parentheses -/
def toText : ParseTree → String
  | leaf s => s
  | node s cs => s ++ "(" ++ " ".intercalate (allTexts cs) ++ ")"

/-- each of the trees on one line -/
def allTexts : List ParseTree → List String
  | [] => []
  | c :: cs => c.toText :: allTexts cs

end

/-! ## Equality -/

mutual

/-- whether two trees are the same -/
def same : ParseTree → ParseTree → Bool
  | leaf s, leaf t => s = t
  | node s cs, node t ds => s = t && allSame cs ds
  | leaf _, node _ _ => false
  | node _ _, leaf _ => false

/-- whether two lists of trees are the same -/
def allSame : List ParseTree → List ParseTree → Bool
  | [], [] => true
  | c :: cs, d :: ds => c.same d && allSame cs ds
  | [], _ :: _ => false
  | _ :: _, [] => false

end

mutual

theorem eq_of_same : ∀ {t u : ParseTree}, t.same u = true → t = u
  | leaf s, leaf t, h => by simpa [same] using h
  | node s cs, node t ds, h => by
    simp only [same, Bool.and_eq_true, decide_eq_true_eq] at h
    rw [h.1, eq_of_allSame h.2]
  | leaf _, node _ _, h => by simp [same] at h
  | node _ _, leaf _, h => by simp [same] at h

theorem eq_of_allSame : ∀ {ts us : List ParseTree}, allSame ts us = true → ts = us
  | [], [], _ => rfl
  | t :: ts, u :: us, h => by
    simp only [allSame, Bool.and_eq_true] at h
    rw [eq_of_same h.1, eq_of_allSame h.2]
  | [], _ :: _, h => by simp [allSame] at h
  | _ :: _, [], h => by simp [allSame] at h

end

mutual

theorem same_refl : ∀ t : ParseTree, t.same t = true
  | leaf s => by simp [same]
  | node s cs => by simp [same, allSame_refl cs]

theorem allSame_refl : ∀ ts : List ParseTree, allSame ts ts = true
  | [] => rfl
  | t :: ts => by simp [allSame, same_refl t, allSame_refl ts]

end

theorem same_iff_eq {t u : ParseTree} : t.same u = true ↔ t = u :=
  ⟨eq_of_same, fun h => h ▸ same_refl t⟩

instance : DecidableEq ParseTree := fun _ _ => decidable_of_iff _ same_iff_eq

mutual

/-- a number that equal trees share -/
def fingerprint : ParseTree → UInt64
  | leaf s => mixHash 5 (hash s)
  | node s cs => mixHash (hash s) (allFingerprints cs)

/-- a number that equal lists of trees share -/
def allFingerprints : List ParseTree → UInt64
  | [] => 7
  | c :: cs => mixHash c.fingerprint (allFingerprints cs)

end

instance : Hashable ParseTree := ⟨fingerprint⟩

end ParseTree

end GrammarLab
