/-
Quoted text, the form in which messages show a name or a line that may hold anything.

The text stands between single quotes, or between double quotes if it has a single quote and no double one. Inside, the
backslash and the quote in use are written with a backslash before them, line feed, carriage return and tab by their
letters, and any other character that does not print by its code point in two, four or eight hexadecimal digits.
-/
import GrammarLab.Text.Printable

namespace GrammarLab.Text

/-- the digits of `n` in base sixteen, at least `width` of them -/
def hexadecimal (width n : Nat) : List Char :=
  let ds := Nat.toDigits 16 n
  List.replicate (width - ds.length) '0' ++ ds

/-- one character inside the quotes `quote` -/
def quoteChar (quote c : Char) : List Char :=
  if c = '\\' ∨ c = quote then ['\\', c]
  else if c = '\n' then ['\\', 'n']
  else if c = '\r' then ['\\', 'r']
  else if c = '\t' then ['\\', 't']
  else if isPrintable c then [c]
  else if c.toNat < 0x100 then '\\' :: 'x' :: hexadecimal 2 c.toNat
  else if c.toNat < 0x10000 then '\\' :: 'u' :: hexadecimal 4 c.toNat
  else '\\' :: 'U' :: hexadecimal 8 c.toNat

/-- the quote that a text is put in: single, unless only single quotes occur in it -/
def quoteFor (cs : List Char) : Char :=
  if cs.contains '\x27' && !cs.contains '\x22' then '\x22' else '\x27'

/-- a text in quotes -/
def quoted (s : String) : String :=
  let cs := s.toList
  let quote := quoteFor cs
  String.ofList (quote :: cs.flatMap (quoteChar quote) ++ [quote])

/-- texts in square brackets, with commas between them -/
def bracketed (parts : List String) : String := "[" ++ ", ".intercalate parts ++ "]"

end GrammarLab.Text
