/-
First in, first out: elements that wait, in the order in which they came.

A queue is held as two lists, the later one backwards, so that neither end is walked to: `toList` is what it stands for.
-/

namespace GrammarLab.Chart

/-- elements in the order in which they will leave -/
structure Queue (α : Type) where
  front : List α
  /-- the elements behind those of `front`, last come first -/
  back : List α

namespace Queue

variable {α : Type}

/-- the elements, the next to leave first -/
def toList (q : Queue α) : List α := q.front ++ q.back.reverse

/-- the elements of a list in a queue -/
def ofList (l : List α) : Queue α := ⟨l, []⟩

def size (q : Queue α) : Nat := q.front.length + q.back.length

/-- the queue with all elements of `l` at the end -/
def pushAll (q : Queue α) (l : List α) : Queue α := ⟨q.front, l.reverseAux q.back⟩

/-- the next element and the queue without it, unless the queue is empty -/
def pop? (q : Queue α) : Option (α × Queue α) :=
  match q.front with
  | x :: front => some (x, ⟨front, q.back⟩)
  | [] =>
    match q.back.reverse with
    | [] => none
    | x :: front => some (x, ⟨front, []⟩)

@[simp] theorem toList_ofList (l : List α) : (ofList l).toList = l := by simp [ofList, toList]

@[simp] theorem toList_pushAll (q : Queue α) (l : List α) : (q.pushAll l).toList = q.toList ++ l := by
  simp [pushAll, toList, List.reverseAux_eq]

@[simp] theorem length_toList (q : Queue α) : q.toList.length = q.size := by simp [toList, size]

theorem toList_of_pop?_eq_none {q : Queue α} (h : q.pop? = none) : q.toList = [] := by
  obtain ⟨front, back⟩ := q
  cases front with
  | cons x front => simp [pop?] at h
  | nil =>
    cases hb : back.reverse with
    | nil => simp [toList, hb]
    | cons x front => simp [pop?, hb] at h

theorem toList_of_pop?_eq_some {q r : Queue α} {x : α} (h : q.pop? = some (x, r)) : q.toList = x :: r.toList := by
  obtain ⟨front, back⟩ := q
  cases front with
  | cons y front =>
    obtain ⟨rfl, rfl⟩ : y = x ∧ ⟨front, back⟩ = r := by simpa [pop?] using h
    simp [toList]
  | nil =>
    cases hb : back.reverse with
    | nil => simp [pop?, hb] at h
    | cons y front =>
      obtain ⟨rfl, rfl⟩ : y = x ∧ ⟨front, []⟩ = r := by simpa [pop?, hb] using h
      simp [toList, hb]

theorem size_of_pop?_eq_some {q r : Queue α} {x : α} (h : q.pop? = some (x, r)) : r.size < q.size := by
  rw [← length_toList, ← length_toList, toList_of_pop?_eq_some h]
  exact Nat.lt_succ_self _

end Queue

end GrammarLab.Chart
