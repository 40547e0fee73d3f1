/-
Sets of characters given as closed ranges of code points.
-/

namespace GrammarLab.Text

/-- whether the code point of `c` lies in one of the ranges, ends included -/
def inRanges (ranges : List (Nat × Nat)) (c : Char) : Bool :=
  ranges.any fun r => r.1 ≤ c.toNat && c.toNat ≤ r.2

end GrammarLab.Text
