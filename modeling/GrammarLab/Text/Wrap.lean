/-
Lines that fit into a width.

A line is broken between words, and a word takes the blanks after it along. A word that is wider than a whole line begins
a line of its own and is cut wherever a line is full. Blanks that stand out at the end of a line are dropped.
-/
import GrammarLab.Text.Blank
import GrammarLab.Text.Width

namespace GrammarLab.Text.Wrap

/-- the words of a text that begins with one, each with the blanks after it -/
def wordsFrom (cs : List Char) : List (List Char) :=
  match cs with
  | [] => []
  | c :: cs =>
    let word := cs.takeWhile fun c => !isBlank c
    let blanks := (cs.drop word.length).takeWhile isBlank
    (c :: word ++ blanks) :: wordsFrom (cs.drop (word.length + blanks.length))
termination_by cs.length
decreasing_by
  simp only [List.length_cons, List.length_drop]
  omega

/-- the words of a text, each with the blanks after it, and the first with those before it as well -/
def words (cs : List Char) : List (List Char) :=
  match wordsFrom (cs.dropWhile isBlank) with
  | [] => []
  | word :: rest => (cs.takeWhile isBlank ++ word) :: rest

/-- a word cut into lines of the given width; `line` has been begun, reversed, and takes `column` columns -/
def cut (width column : Nat) (line : List Char) : List Char → List (List Char)
  | [] => [line.reverse]
  | c :: cs =>
    if width < column + charWidth c then line.reverse :: cut width (charWidth c) [c] cs
    else cut width (column + charWidth c) (c :: line) cs

/-- words in lines of the given width, of which `line` has been begun -/
def fill (width : Nat) (line : List Char) : List (List Char) → List (List Char)
  | [] => [line]
  | word :: rest =>
    let bare := displayWidth (trimRight word)
    if displayWidth line + bare ≤ width then fill width (line ++ word) rest
    else
      let full := if line.isEmpty then [] else [line]
      if bare ≤ width then full ++ fill width word rest
      else
        let parts := cut width 0 [] word
        full ++ parts.dropLast ++ fill width (parts.getLast?.getD []) rest

/-- a line without the blanks at its end that are too many -/
def dropBlanks (width : Nat) (line : List Char) : List Char :=
  let bare := (trimRight line).length
  line.take (max bare (min line.length width))

/-- as much of a line as fits, where a space fills up for half a wide character; `column` columns have been passed -/
def crop (width column : Nat) : List Char → List Char
  | [] => []
  | c :: cs =>
    if column + charWidth c ≤ width then c :: crop width (column + charWidth c) cs
    else List.replicate (width - column) ' '

end GrammarLab.Text.Wrap

namespace GrammarLab.Text

/-- the lines of the given width that a line is broken into -/
def wrap (width : Nat) (line : List Char) : List (List Char) :=
  let broken := match Wrap.words line with
    | [] => [line]
    | words => Wrap.fill width [] words
  broken.map fun line => Wrap.crop width 0 (Wrap.dropBlanks width line)

end GrammarLab.Text
