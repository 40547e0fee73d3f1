/-
Regular expressions: the empty string, letters, alternatives, sequences and repetitions.

A letter is a text, as a rule of one character. The printer writes the forms that the reader makes: a sequence begins
with the empty string, which it leaves out, an alternative inside a sequence is put in parentheses, and so is whatever
a star follows if it is more than one sign.
-/
import GrammarLab.Grammar.Printer

namespace GrammarLab

/-- a regular expression -/
inductive Regex where
  | empty
  | letter (s : String)
  | alt (left right : Regex)
  | seq (left right : Regex)
  | star (inner : Regex)
deriving DecidableEq, Repr

namespace Regex

/-- whether a star may follow the expression without parentheses -/
def isAtomic : Regex → Bool
  | empty => true
  | letter _ => true
  | star _ => true
  | alt _ _ => false
  | seq _ _ => false

/-- whether the expression needs parentheses in a sequence -/
def isAlt : Regex → Bool
  | alt _ _ => true
  | _ => false

/-- a text in parentheses if need be -/
def parenthesized (need : Bool) (s : String) : String := if need then "(" ++ s ++ ")" else s

/-- a regular expression as text -/
def toText : Regex → String
  | empty => emptySign
  | letter s => s
  | alt left right => left.toText ++ "|" ++ right.toText
  | seq empty right => parenthesized right.isAlt right.toText
  | seq left right => left.toText ++ parenthesized right.isAlt right.toText
  | star inner => parenthesized (!inner.isAtomic) inner.toText ++ "*"

end Regex

end GrammarLab
