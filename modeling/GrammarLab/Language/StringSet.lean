/-
Finite sets of texts as lists in increasing order, without repetitions.

Texts are ordered by their code points. `union` merges two such lists, and everything else is made of unions.
-/

namespace GrammarLab

/-- texts in increasing order -/
abbrev StringSet := List String

namespace StringSet

/-- all texts of two sets -/
def union : StringSet → StringSet → StringSet
  | [], ys => ys
  | xs, [] => xs
  | x :: xs, y :: ys =>
    if x < y then x :: union xs (y :: ys)
    else if x = y then y :: union xs ys
    else y :: union (x :: xs) ys
termination_by xs ys => xs.length + ys.length

/-- all texts of several sets -/
def unions (sets : List StringSet) : StringSet := sets.foldl union []

/-- every text of the first set followed by every text of the second -/
def append (xs ys : StringSet) : StringSet := unions (xs.map fun x => ys.map fun y => x ++ y)

end StringSet

end GrammarLab
