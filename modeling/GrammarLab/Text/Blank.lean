/-
Blanks and line ends, the two character classes that the readers of grammars and arguments know.

A blank is any Unicode space, tab or line end; a line end is a blank that closes a line. `trim` removes the blanks around
a text, `lines` cuts it at its line ends, where a carriage return followed by a line feed is one end. No line holds a
line end, and no line follows the last end.
-/

namespace GrammarLab.Text

/-- tab to carriage return, the four separators below the space, and the spaces of Unicode -/
def isBlank (c : Char) : Bool :=
  let n := c.toNat
  (0x09 ≤ n && n ≤ 0x0D) || (0x1C ≤ n && n ≤ 0x20) || n == 0x85 || n == 0xA0 || n == 0x1680 ||
    (0x2000 ≤ n && n ≤ 0x200A) || n == 0x2028 || n == 0x2029 || n == 0x202F || n == 0x205F || n == 0x3000

/-- line feed to carriage return, three of the separators, next line, and the two separators of Unicode -/
def isLineEnd (c : Char) : Bool :=
  let n := c.toNat
  (0x0A ≤ n && n ≤ 0x0D) || (0x1C ≤ n && n ≤ 0x1E) || n == 0x85 || n == 0x2028 || n == 0x2029

/-- the text without the blanks before it -/
def trimLeft (cs : List Char) : List Char := cs.dropWhile isBlank

/-- the text without the blanks after it -/
def trimRight (cs : List Char) : List Char := (cs.reverse.dropWhile isBlank).reverse

/-- the text without the blanks around it -/
def trim (cs : List Char) : List Char := trimRight (trimLeft cs)

/-- the lines of a text; `open?` says whether a line has been begun -/
def lines.go (current : List Char) (begun : Bool) : List Char → List (List Char)
  | [] => if begun then [current.reverse] else []
  | '\r' :: '\n' :: cs => current.reverse :: lines.go [] false cs
  | c :: cs =>
    if isLineEnd c then current.reverse :: lines.go [] false cs else lines.go (c :: current) true cs

/-- the lines of a text, without their ends; an end that closes the text opens no further line -/
def lines (cs : List Char) : List (List Char) := lines.go [] false cs

/-- the parts between the occurrences of `sep`; one more than there are occurrences -/
def splitAt (sep : Char) : List Char → List (List Char)
  | [] => [[]]
  | c :: cs =>
    if c = sep then [] :: splitAt sep cs
    else match splitAt sep cs with
      | [] => [[c]]
      | part :: parts => (c :: part) :: parts

end GrammarLab.Text
