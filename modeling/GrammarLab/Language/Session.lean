/-
Languages made of one another, and readers that walk along them.

A session goes on by actions: a language is made of earlier ones, a level is read, a reader is set at the beginning of a
language, or a reader goes one level further. Languages and readers have numbers, in the order in which they come. What
has been worked out for one action is there for all that follow.
-/
import GrammarLab.Language.Store

namespace GrammarLab

namespace Language

/-- how a language is made; those that it is made of are given by their numbers -/
inductive Operator where
  | empty
  | letter (s : String)
  | union (a b : Nat)
  | seq (a b : Nat)
  | star (a : Nat)
deriving DecidableEq, Repr

/-- the store with the language that an operator makes, and its number -/
def Store.make (store : Store) : Operator → Nat × Store
  | .empty => store.addEmpty
  | .letter s => store.addLetter s
  | .union a b => store.addUnion a b
  | .seq a b => store.addSeq a b
  | .star a => store.addStar a

/-- what can be done with languages and their readers -/
inductive Action where
  /-- a new language -/
  | make (operator : Operator)
  /-- level `n` of language `i` -/
  | level (i n : Nat)
  /-- a new reader of language `i` -/
  | start (i : Nat)
  /-- one step of reader `r` -/
  | step (r : Nat)
deriving DecidableEq, Repr

/-- languages and readers by number -/
structure Session where
  store : Store
  readers : Array Reader

namespace Session

/-- no language has been made -/
def blank : Session := ⟨#[], #[]⟩

/-- the level that an action reads, if it reads one that is there, and the session after it -/
def act (s : Session) : Action → Option StringSet × Session
  | .make operator => (none, { s with store := (s.store.make operator).2 })
  | .level i n =>
    let (level, store) := s.store.level i n
    (level, { s with store })
  | .start i => (none, { s with readers := s.readers.push ⟨i, 0⟩ })
  | .step r =>
    match s.readers[r]? with
    | none => (none, s)
    | some reader =>
      let (level, reader, store) := s.store.next reader
      (level, { store, readers := s.readers.setIfInBounds r reader })

/-- the session after actions one after another -/
def run (s : Session) (script : List Action) : Session := script.foldl (fun s action => (s.act action).2) s

end Session

end Language

end GrammarLab
