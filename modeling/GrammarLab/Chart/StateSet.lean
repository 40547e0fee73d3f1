/-
State sets: the items that begin at one position, in order of discovery.

No item is in a state set twice. Beside the list the set keeps an index of its members, so that asking for one does not
walk the list; that list and index agree is part of the type.
-/
import GrammarLab.Chart.Item
import Std.Data.HashSet

namespace GrammarLab.Chart

/-- items in order of discovery -/
structure StateSet where
  items : List Item
  members : Std.HashSet Item
  mem_members : ∀ i, i ∈ members ↔ i ∈ items

namespace StateSet

/-- the set without items -/
def empty : StateSet := ⟨[], ∅, by simp⟩

instance : Membership Item StateSet := ⟨fun s i => i ∈ s.items⟩

instance (i : Item) (s : StateSet) : Decidable (i ∈ s) := decidable_of_iff _ (s.mem_members i)

def size (s : StateSet) : Nat := s.items.length

/-- the set with one more item at the end -/
def push (s : StateSet) (i : Item) : StateSet :=
  ⟨s.items ++ [i], s.members.insert i, by
    intro j
    rw [Std.HashSet.mem_insert, s.mem_members, List.mem_append, List.mem_singleton]
    constructor
    · rintro (h | h)
      · exact Or.inr (eq_of_beq h).symm
      · exact Or.inl h
    · rintro (h | h)
      · exact Or.inr h
      · exact Or.inl (beq_iff_eq.mpr h.symm)⟩

/-- the set with the item at the end, unless it is there already -/
def insert (s : StateSet) (i : Item) : StateSet := if i ∈ s then s else s.push i

/-- the set with each of the items inserted in turn -/
def insertAll (s : StateSet) (is : List Item) : StateSet := is.foldl insert s

/-- the completed items -/
def completed (s : StateSet) : List Item := s.items.filter (·.isCompleted)

/-- one item a line -/
def toMarkup (s : StateSet) : String := "\n".intercalate (s.items.map (·.toMarkup))

theorem size_push (s : StateSet) (i : Item) : (s.push i).size = s.size + 1 := by simp [push, size]

end StateSet

end GrammarLab.Chart
