/-
The order in which trees are shown: by the length of the sentence, then by the sentence, then by the height.

Trees that agree in all three keep the order in which they came.
-/
import GrammarLab.Tree.Basic

namespace GrammarLab.ParseTree

/-- what a tree is ordered by -/
structure DisplayKey where
  length : Nat
  sentence : String
  height : Nat
deriving DecidableEq, Repr

def displayKey (t : ParseTree) : DisplayKey :=
  let s := t.sentence
  ⟨s.length, s, t.height⟩

/-- how two keys compare -/
def DisplayKey.order (k l : DisplayKey) : Ordering :=
  (compare k.length l.length).then ((compareOfLessAndEq k.sentence l.sentence).then (compare k.height l.height))

/-- how two trees compare -/
def order (t u : ParseTree) : Ordering := t.displayKey.order u.displayKey

/-- the trees in the order in which they are shown -/
def sort (ts : List ParseTree) : List ParseTree :=
  ((ts.map fun t => (t.displayKey, t)).mergeSort fun a b => (a.1.order b.1).isLE).map (·.2)

/-- the same trees are shown, each as often as it came -/
theorem sort_perm (ts : List ParseTree) : (sort ts).Perm ts := by
  have hmap : (ts.map fun t => (t.displayKey, t)).map (·.2) = ts := by simp [List.map_map, Function.comp_def]
  exact ((List.mergeSort_perm _ _).map _).trans (.of_eq hmap)

@[simp] theorem mem_sort {t : ParseTree} {ts : List ParseTree} : t ∈ sort ts ↔ t ∈ ts := (sort_perm ts).mem_iff

end GrammarLab.ParseTree
