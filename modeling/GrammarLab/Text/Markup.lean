/-
Text with markup, as it appears on a console without colours.

A tag is an opening bracket, a small letter or one of `#`, `/` and `@`, and anything without an opening bracket up to the
first closing one. Tags leave no trace. What stands before an equals sign in a tag is its name, a style as a rule. A tag
that begins with a slash closes the innermost open tag of the same style, or the innermost of all without a style; there
must be such a tag. A backslash before a tag makes it plain text, two backslashes stand for one, and a bracket that begins
no tag is plain, with or without a backslash. In the plain text between tags emoji stand for their codes. Tabs go on to
the next stop, the control characters that move the cursor are left out, and lines that are too wide are broken.
-/
import GrammarLab.Text.Emoji
import GrammarLab.Text.Quoted
import GrammarLab.Text.Style
import GrammarLab.Text.Tabs
import GrammarLab.Text.Wrap

namespace GrammarLab.Text

/-- what is wrong with markup -/
inductive MarkupError where
  /-- a tag closes what is not open; `position` is the number of characters before it -/
  | unmatched (tag : String) (position : Nat)
  | nothingOpen (position : Nat)
  /-- a style has a share of a colour that is no number -/
  | noInteger (share : String)
deriving DecidableEq, Repr

def MarkupError.message : MarkupError → String
  | .unmatched tag position =>
    "closing tag '[" ++ tag ++ "]' at position " ++ toString position ++ " doesn't match any open tag"
  | .nothingOpen position => "closing tag '[/]' at position " ++ toString position ++ " has nothing to close"
  | .noInteger share => "invalid literal for int() with base 10: " ++ quoted share

/-- a part of a text with markup -/
inductive Piece where
  /-- plain text, but for emoji codes and for backslashes before brackets -/
  | plain (cs : List Char)
  /-- a tag, without its brackets, and the number of characters before it -/
  | tag (cs : List Char) (position : Nat)
deriving DecidableEq, Repr

namespace Markup

/-! ## Pieces -/

/-- the characters that a tag may begin with -/
def beginsTag (c : Char) : Bool := ('a' ≤ c && c ≤ 'z') || c = '#' || c = '/' || c = '@'

/-- the characters after the first in a tag -/
def insideTag (c : Char) : Bool := c ≠ '[' && c ≠ ']'

/-- the tag that an opening bracket before `cs` begins -/
def tag? : List Char → Option (List Char)
  | [] => none
  | c :: cs =>
    if beginsTag c && (cs.dropWhile insideTag).head? = some ']' then some (c :: cs.takeWhile insideTag) else none

/-- the text before the first tag, and the tag -/
def firstTag? : List Char → Option (List Char × List Char)
  | [] => none
  | c :: cs =>
    match (if c = '[' then tag? cs else none) with
    | some tag => some ([], tag)
    | none => (firstTag? cs).map fun (before, tag) => (c :: before, tag)

/-- how many backslashes a text ends in -/
def slashes (cs : List Char) : Nat := (cs.reverse.takeWhile (· = '\\')).length

/-- the pieces of a text of which `position` characters have been passed -/
def pieces (position : Nat) (cs : List Char) : List Piece :=
  match _h : firstTag? cs with
  | none => [.plain cs]
  | some (before, tag) =>
    let run := slashes before
    let length := before.length + tag.length + 2
    .plain (before.take (before.length - run)) :: .plain (List.replicate (run / 2) '\\') ::
      (if run % 2 = 1 then .plain ('[' :: tag ++ [']']) else .tag tag (position + before.length)) ::
      pieces (position + length) (cs.drop length)
termination_by cs.length
decreasing_by
  have : cs ≠ [] := fun empty => by simp [empty, firstTag?] at _h
  have := List.length_pos_iff.2 this
  simp only [List.length_drop]
  omega

/-! ## Tags -/

/-- the style that a tag opens or closes, without what follows an equals sign -/
def tagStyle (tag : List Char) : Except MarkupError String :=
  (styleName (tag.takeWhile (· ≠ '='))).mapError .noInteger

/-- the open tags, innermost first, after one more tag -/
def openTags (tags : List String) (tag : List Char) (position : Nat) : Except MarkupError (List String) :=
  match tag with
  | '/' :: rest =>
    if (trim (rest.takeWhile (· ≠ '='))).isEmpty then
      if tags.isEmpty then .error (.nothingOpen position) else .ok (tags.drop 1)
    else do
      let style ← tagStyle rest
      if tags.contains style then return tags.erase style
      else .error (.unmatched (String.ofList tag) position)
  | _ => do
    let style ← tagStyle tag
    return style :: tags

/-! ## Appearance -/

/-- plain text without the backslashes before its brackets -/
def unescape : List Char → List Char
  | '\\' :: '[' :: cs => '[' :: unescape cs
  | c :: cs => c :: unescape cs
  | [] => []

/-- what is left of pieces, with the given tags open -/
def strip (tags : List String) : List Piece → Except MarkupError (List Char)
  | [] => .ok []
  | .plain cs :: pieces => do
    let rest ← strip tags pieces
    return Emoji.replaceCodes (unescape cs) ++ rest
  | .tag cs position :: pieces => do
    let tags ← openTags tags cs position
    strip tags pieces

/-- bell, backspace, vertical tab, form feed and carriage return -/
def movesCursor (c : Char) : Bool := c = '\x07' || c = '\x08' || c = '\x0b' || c = '\x0c' || c = '\r'

/-- the lines in which a text with markup appears where there are `width` columns -/
def lines (width : Nat) (s : String) : Except MarkupError (List String) := do
  let plain ← strip [] (pieces 0 s.toList)
  let lines := splitAt '\n' (expandTabs charWidth 0 (plain.filter fun c => !movesCursor c))
  return (lines.flatMap (wrap width)).map String.ofList

end Markup

end GrammarLab.Text
