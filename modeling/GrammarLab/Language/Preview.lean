/-
The texts of a regular expression on one line, as many as fit.

Every text costs its length and two more. The line shows the texts, by length and then by contents, while they can be paid
for, and an ellipsis in place of the first that cannot. The empty text is shown as `ε`; it can only be the first.
-/
import GrammarLab.Language.Store
import GrammarLab.Regex.Reader
import GrammarLab.Event

namespace GrammarLab

namespace Language

/-- the texts of a level that can be paid for, and what is left unless one of them could not be -/
def spend (budget : Nat) : List String → List String × Option Nat
  | [] => ([], some budget)
  | s :: l =>
    if budget < s.length + 2 then ([], none)
    else
      let (shown, rest) := spend (budget - (s.length + 2)) l
      (s :: shown, rest)

theorem spend_lt {budget : Nat} {s : String} {l : List String} {rest : Nat}
    (h : (spend budget (s :: l)).2 = some rest) : rest < budget := by
  induction l generalizing budget s with
  | nil =>
    simp only [spend] at h
    split at h
    · cases h
    · cases h; omega
  | cons t l ih =>
    rw [spend] at h
    split at h
    · cases h
    · have := ih h
      omega

/-- what is shown of a language from level `k` on, where no more than `patience` empty levels stand in a row; `empties`
of them stand before level `k` -/
def shownFrom (i patience k budget empties : Nat) (store : Store) : List String :=
  match store.level i k with
  | (none, _) => []
  | (some [], store) =>
    if empties < patience then shownFrom i patience (k + 1) budget (empties + 1) store else []
  | (some (s :: l), store) =>
    match _h : spend budget (s :: l) with
    | (shown, none) => shown ++ ["..."]
    | (shown, some rest) => shown ++ shownFrom i patience (k + 1) rest 0 store
termination_by (budget, patience - empties)
decreasing_by
  · exact Prod.Lex.right _ (by omega)
  · exact Prod.Lex.left _ _ (spend_lt (congrArg Prod.snd _h))

end Language

namespace Regex

/-- what a preview may cost unless told otherwise -/
def previewLimit : Int := 150

/-- the texts of an expression that `limit` can pay for -/
def shown (e : Regex) (limit : Int) : List String :=
  let (i, store) := Language.Store.addRegex #[] e
  Language.shownFrom i (Language.Store.span store i) 0 limit.toNat 0 store

/-- the empty text at the beginning made visible -/
def markEmpty : List String → List String
  | [] => []
  | s :: l => (if s.isEmpty then emptySign else s) :: l

/-- the texts of an expression on one line -/
def preview (e : Regex) (limit : Int) : String :=
  "\x7b " ++ ", ".intercalate (markEmpty (e.shown limit)) ++ " \x7d"

/-- the texts of an expression given as text on one line, or what is wrong with it -/
def previewText (source : String) (limit : Int) : String × List Event :=
  match read source with
  | .ok e => (e.preview limit, [])
  | .error complaint => ("Malformed expression: " ++ complaint.message, [.malformed source complaint.message])

end Regex

end GrammarLab
