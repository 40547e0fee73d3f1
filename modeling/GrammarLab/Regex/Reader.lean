/-
Reading regular expressions.

An expression is one or more terms with bars between them, a term any number of factors, and a factor a letter, a digit,
`ε` or an expression in parentheses, with any number of stars after it. There is a reader for each of these: it takes as
much of the text as it can use and gives the text after it to the next. A reader that goes on from what has been read so
far has that as its first argument.
-/
import GrammarLab.Regex.Basic
import GrammarLab.Text.Scanner

namespace GrammarLab.Regex

open Text

/-- ASCII letters and digits -/
def isAlphanumeric (c : Char) : Bool :=
  ('a' ≤ c && c ≤ 'z') || ('A' ≤ c && c ≤ 'Z') || ('0' ≤ c && c ≤ '9')

/-- whether a text is one ASCII letter or digit -/
def isAlphanumericText (s : String) : Bool :=
  match s.toList with
  | [c] => isAlphanumeric c
  | _ => false

/-- whether a factor can begin with the character -/
def beginsFactor (c : Char) : Bool := c = '(' || isAlphanumeric c || c = 'ε'

/-- an expression read at the front of a text, and the text after it, which is no longer -/
structure Piece (s : Scanner) where
  regex : Regex
  after : Scanner
  shorter : after.rest.length ≤ s.rest.length

namespace Piece

/-- the piece as one of a longer text -/
def within {s s' : Scanner} (p : Piece s') (h : s'.rest.length ≤ s.rest.length) : Piece s :=
  ⟨p.regex, p.after, Nat.le_trans p.shorter h⟩

end Piece

/-- the expression in as many stars as follow -/
def readStars (e : Regex) (s : Scanner) : Piece s :=
  match _h : s.rest with
  | '*' :: _ => (readStars (.star e) s.advance).within s.length_advance_le
  | _ => ⟨e, s, Nat.le_refl _⟩
termination_by s.rest.length
decreasing_by exact s.length_advance_lt (by simp [_h])

/-- the text after a closing parenthesis, for an expression before it -/
def readClosing (e : Regex) (s : Scanner) : Except Complaint (Piece s) :=
  match h : s.expect ")" with
  | .error complaint => .error complaint
  | .ok closed => .ok ⟨e, closed, Scanner.length_expect_le h⟩

mutual

/-- a factor and its stars, at least one character -/
def readFactor (s : Scanner) : Except Complaint (Piece s.advance) :=
  match _h : s.rest with
  | [] => .error (s.complain (.other "letter or '(' expected"))
  | c :: _ =>
    if isAlphanumeric c then .ok (readStars (.letter c.toString) s.advance)
    else if c = '(' then do
      let e ← readExpr s.advance
      let group ← readClosing e.regex e.after
      return (readStars group.regex group.after).within (Nat.le_trans group.shorter e.shorter)
    else if c = 'ε' then .ok (readStars .empty s.advance)
    else .error (s.complain (.other "letter or '(' expected"))
termination_by (s.rest.length, 0)
decreasing_by exact Prod.Lex.left _ _ (s.length_advance_lt (by simp [_h]))

/-- the term with as many factors more as follow -/
def readFactors (t : Regex) (s : Scanner) : Except Complaint (Piece s) :=
  if _h : s.rest.head?.any beginsFactor then do
    let f ← readFactor s
    let p ← readFactors (.seq t f.regex) f.after
    return p.within (Nat.le_trans f.shorter s.length_advance_le)
  else .ok ⟨t, s, Nat.le_refl _⟩
termination_by (s.rest.length, 1)
decreasing_by
  · exact Prod.Lex.right _ Nat.zero_lt_one
  · exact Prod.Lex.left _ _ (Nat.lt_of_le_of_lt f.shorter (s.length_advance_lt fun hs => by simp [hs] at _h))

/-- the expression with as many terms more as follow, a bar before each -/
def readBars (e : Regex) (s : Scanner) : Except Complaint (Piece s) :=
  if _h : s.rest.head? = some '|' then do
    let t ← readFactors .empty s.advance
    let p ← readBars (.alt e t.regex) t.after
    return p.within (Nat.le_trans t.shorter s.length_advance_le)
  else .ok ⟨e, s, Nat.le_refl _⟩
termination_by (s.rest.length, 2)
decreasing_by
  · exact Prod.Lex.left _ _ (s.length_advance_lt fun hs => by simp [hs] at _h)
  · exact Prod.Lex.left _ _ (Nat.lt_of_le_of_lt t.shorter (s.length_advance_lt fun hs => by simp [hs] at _h))

/-- an expression -/
def readExpr (s : Scanner) : Except Complaint (Piece s) := do
  let t ← readFactors .empty s
  let e ← readBars t.regex t.after
  return e.within t.shorter
termination_by (s.rest.length, 3)
decreasing_by
  · exact Prod.Lex.right _ (by decide)
  · exact (Nat.lt_or_eq_of_le t.shorter).elim (Prod.Lex.left _ _) fun h => h ▸ Prod.Lex.right _ (by decide)

end

/-- the expression that a text is -/
def read (source : String) : Except Complaint Regex := do
  let e ← readExpr (.ofString source)
  match e.after.rest with
  | [] => return e.regex
  | c :: _ => .error (e.after.complain (.unexpected c))

end GrammarLab.Regex
