/-
Languages, possibly infinite, found out level by level.

Level `n` of a language holds its texts of length `n`. A language is a cell in a store: a source of levels, which can be
read once, and the levels taken from it so far, which are kept. A level is taken when a reader first comes to it, and just
what this needs is taken of other languages; so any number of readers may read any languages in any order. A cell that has
no further level is ended.

The sources of unions and sequences read two languages, with readers of their own. Level `n` of a sequence is the union of
the products of a level `i` of one and a level `n - i` of the other. A repetition is the empty text, and after that the
sequence of the language without its level 0 and the repetition itself, one level up: level `n + 1` needs levels of the
repetition up to `n` only, which are known.
-/
import GrammarLab.Language.StringSet
import GrammarLab.Regex.Basic
import GrammarLab.Text.Quoted

namespace GrammarLab

namespace Language

/-- a reader of a language, and the number of the level that it reads next -/
structure Reader where
  language : Nat
  position : Nat
deriving DecidableEq, Repr

/-- where the further levels of a language come from; what has been taken is no longer there -/
inductive Source where
  /-- levels given -/
  | listed (levels : List StringSet)
  /-- two languages side by side -/
  | union (a b : Reader)
  /-- the diagonals of two languages from number `n` on, with the levels that have been read of them -/
  | seq (n : Nat) (a b : Reader) (xs ys : Array StringSet)
  /-- a repetition of which nothing has been read -/
  | star (a : Nat)

/-- a language as far as it is known -/
structure Cell where
  source : Source
  known : Array StringSet
  /-- there are no levels but those known -/
  ended : Bool
  /-- no more empty levels than this stand between two that are not -/
  span : Nat

/-- languages by number -/
abbrev Store := Array Cell

namespace Store

/-- the levels known of a language -/
def known (store : Store) (i : Nat) : Array StringSet := (store[i]?.map (·.known)).getD #[]

/-- whether nothing more can be found out about a language -/
def ended (store : Store) (i : Nat) : Bool := (store[i]?.map (·.ended)).getD true

/-- the most empty levels in a row that a language has before its last -/
def span (store : Store) (i : Nat) : Nat := (store[i]?.map (·.span)).getD 0

/-- one more level of a language and the source of those after it, or the end of the language -/
def record (store : Store) (i : Nat) (level : Option StringSet) (source : Source) : Store :=
  store.modify i fun cell =>
    match level with
    | some level => { cell with source, known := cell.known.push level }
    | none => { cell with ended := true }

/-- the level that a reader has come to, if it is known, and the reader after it -/
def pass (store : Store) (r : Reader) : Option StringSet × Reader :=
  match (store.known r.language)[r.position]? with
  | some level => (some level, { r with position := r.position + 1 })
  | none => (none, r)

/-- the union of the products of levels `i` of the first and `n - i` of the second language, if there are any such -/
def diagonal (xs ys : Array StringSet) (n : Nat) : Option StringSet :=
  let products := (List.range (n + 1)).filterMap fun i =>
    match xs[i]?, ys[n - i]? with
    | some x, some y => some (StringSet.append x y)
    | _, _ => none
  if products.isEmpty then none else some (StringSet.unions products)

/-- the union of two levels of which one may be missing -/
def join : Option StringSet → Option StringSet → Option StringSet
  | none, none => none
  | x, y => some (StringSet.union (x.getD []) (y.getD []))

/-- the levels read so far with one more, unless there was none -/
def collect (levels : Array StringSet) : Option StringSet → Array StringSet
  | some level => levels.push level
  | none => levels

/-- one more level of language `i` taken from its source, or its end; what the source needs is read by `read` -/
def pull (read : Reader → Store → Option StringSet × Reader × Store) (i : Nat) (store : Store) : Store :=
  match store[i]? with
  | none => store
  | some cell =>
    match cell.source with
    | .listed levels => store.record i levels.head? (.listed levels.tail)
    | .union a b =>
      let (x, a, store) := read a store
      let (y, b, store) := read b store
      store.record i (join x y) (.union a b)
    | .seq n a b xs ys =>
      let (x, a, store) := read a store
      let (y, b, store) := read b store
      let xs := collect xs x
      let ys := collect ys y
      store.record i (diagonal xs ys n) (.seq (n + 1) a b xs ys)
    | .star a => store.record i (some [""]) (.seq 0 ⟨a, 1⟩ ⟨i, 0⟩ #[] #[])

/-- `pull` applied until language `i` has ended, at most `times` -/
def repeatPull (pull : Store → Store) (i : Nat) : Nat → Store → Store
  | 0, store => store
  | times + 1, store => if store.ended i then store else repeatPull pull i times (pull store)

/-- the store with level `n` of language `i` known, if it has one, and nothing worked out that this does not need -/
def fill (i n : Nat) (store : Store) : Store :=
  -- earlier languages are found out further; of its own language a source has only what is known
  let read (r : Reader) (store : Store) : Option StringSet × Reader × Store :=
    let store := if _h : r.language < i then fill r.language r.position store else store
    let (level, r) := store.pass r
    (level, r, store)
  repeatPull (pull read i) i (n + 1 - (store.known i).size) store
termination_by i

/-! ## Reading -/

/-- level `n` of a language, if it has one -/
def level (i n : Nat) (store : Store) : Option StringSet × Store :=
  let store := fill i n store
  ((store.known i)[n]?, store)

/-- the level that a reader has come to, if there is one, and the reader after it -/
def next (store : Store) (r : Reader) : Option StringSet × Reader × Store :=
  let store := fill r.language r.position store
  let (level, r) := store.pass r
  (level, r, store)

/-- the level `back` places before the end of what is known -/
def levelFromEnd? (i back : Nat) (store : Store) : Option StringSet :=
  let known := store.known i
  if back ≤ known.size then known[known.size - back]? else none

/-- at most `n` levels of a language from level `k` on -/
def takeFrom (i k : Nat) : Nat → Store → List StringSet × Store
  | 0, store => ([], store)
  | n + 1, store =>
    match store.level i k with
    | (none, store) => ([], store)
    | (some l, store) =>
      let (ls, store) := takeFrom i (k + 1) n store
      (l :: ls, store)

/-- at most the first `n` levels of a language -/
def take (i n : Nat) (store : Store) : List StringSet × Store := takeFrom i 0 n store

/-- at most `n` texts of a language from level `k` on, by length and then by contents, where no more than `patience`
empty levels stand in a row; `empties` of them stand before level `k` -/
def stringsFrom (i patience k n empties : Nat) (store : Store) : List String × Store :=
  if n = 0 then ([], store)
  else
    match store.level i k with
    | (none, store) => ([], store)
    | (some [], store) =>
      if empties < patience then stringsFrom i patience (k + 1) n (empties + 1) store else ([], store)
    | (some (s :: l), store) =>
      let (ss, store) := stringsFrom i patience (k + 1) (n - (l.length + 1)) 0 store
      ((s :: l).take n ++ ss, store)
termination_by (n, patience - empties)

/-- at most the first `n` texts of a language, by length and then by contents -/
def strings (i n : Nat) (store : Store) : List String × Store := stringsFrom i (store.span i) 0 n 0 store

/-! ## Making languages -/

/-- the store with one more language, and its number -/
def add (store : Store) (source : Source) (span : Nat) : Nat × Store :=
  (store.size, store.push ⟨source, #[], false, span⟩)

/-- the language with the given levels -/
def addListed (store : Store) (levels : List StringSet) : Nat × Store := store.add (.listed levels) levels.length

/-- the language of the empty text -/
def addEmpty (store : Store) : Nat × Store := store.addListed [[""]]

/-- the language of one letter -/
def addLetter (store : Store) (s : String) : Nat × Store := store.addListed [[], [s]]

/-- the texts of either language -/
def addUnion (store : Store) (a b : Nat) : Nat × Store :=
  store.add (.union ⟨a, 0⟩ ⟨b, 0⟩) (max (store.span a) (store.span b))

/-- the texts of the first language followed by texts of the second -/
def addSeq (store : Store) (a b : Nat) : Nat × Store :=
  store.add (.seq 0 ⟨a, 0⟩ ⟨b, 0⟩ #[] #[]) (store.span a + store.span b)

/-- the texts of a language any number of times in a row -/
def addStar (store : Store) (a : Nat) : Nat × Store := store.add (.star a) (store.span a)

/-- the language of a regular expression, after those of its parts -/
def addRegex (store : Store) : Regex → Nat × Store
  | .empty => store.addEmpty
  | .letter s => store.addLetter s
  | .alt left right =>
    let (a, store) := store.addRegex left
    let (b, store) := store.addRegex right
    store.addUnion a b
  | .seq left right =>
    let (a, store) := store.addRegex left
    let (b, store) := store.addRegex right
    store.addSeq a b
  | .star inner =>
    let (a, store) := store.addRegex inner
    store.addStar a

/-- the levels known of a language, and whether there may be more -/
def toText (store : Store) (i : Nat) : String :=
  let levels := (store.known i).toList.map fun level => Text.bracketed (level.map Text.quoted)
  "Language([" ++ ", ".intercalate levels ++ (if store.ended i then "" else ", ...") ++ "])"

end Store

end Language

end GrammarLab
