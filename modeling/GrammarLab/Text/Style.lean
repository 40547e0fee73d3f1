/-
Styles, the ways that text can look on a console, and their normal form.

A style is given by words: attributes by their names or a short form, colours for the text and, after `on`, for what is
behind it, and after `link` an address. `not` before an attribute takes it away. Of two words for the same thing the later
counts. The normal form names the attributes in a fixed order, then the colours and the address, so two texts that mean
the same style have the same normal form. A text that is no style is its own normal form, in small letters.
-/
import GrammarLab.Text.Colour

namespace GrammarLab.Text

/-- the words of a text, the parts between its blanks -/
def words (cs : List Char) : List (List Char) :=
  match cs with
  | [] => []
  | c :: cs =>
    if isBlank c then words cs
    else (c :: cs.takeWhile fun c => !isBlank c) :: words (cs.dropWhile fun c => !isBlank c)
termination_by cs.length
decreasing_by
  · simp
  · exact Nat.lt_succ_of_le (List.dropWhile_sublist _).length_le

/-- what text can look like besides its colours -/
inductive Attribute where
  | bold
  | dim
  | italic
  | underline
  | blink
  | blink2
  | reverse
  | conceal
  | strike
  | underline2
  | frame
  | encircle
  | overline
deriving DecidableEq, Repr

namespace Attribute

/-- the attributes in the order of normal forms -/
def all : List Attribute :=
  [bold, dim, italic, underline, blink, blink2, reverse, conceal, strike, underline2, frame, encircle, overline]

def name : Attribute → String
  | bold => "bold"
  | dim => "dim"
  | italic => "italic"
  | underline => "underline"
  | blink => "blink"
  | blink2 => "blink2"
  | reverse => "reverse"
  | conceal => "conceal"
  | strike => "strike"
  | underline2 => "underline2"
  | frame => "frame"
  | encircle => "encircle"
  | overline => "overline"

def shortName? : Attribute → Option String
  | bold => some "b"
  | dim => some "d"
  | italic => some "i"
  | underline => some "u"
  | reverse => some "r"
  | conceal => some "c"
  | strike => some "s"
  | underline2 => some "uu"
  | overline => some "o"
  | blink | blink2 | frame | encircle => none

/-- the attribute that a word names -/
def ofWord? (word : String) : Option Attribute := all.find? fun a => a.name = word || a.shortName? = some word

end Attribute

/-- a style; the attributes that it says something about, the latest word first -/
structure Style where
  attributes : List (Attribute × Bool)
  colour : Option String
  background : Option String
  link : Option String
deriving DecidableEq, Repr

namespace Style

/-- the style that says nothing -/
def plain : Style := ⟨[], none, none, none⟩

/-- the style with further words -/
def readWords (style : Style) : List String → Except StyleFault Style
  | [] => .ok style
  | word :: rest =>
    match String.ofList (lowered word.toList), rest with
    | "on", word :: rest => do
      let colour ← Colour.read word
      readWords { style with background := some colour } rest
    | "not", word :: rest =>
      match Attribute.ofWord? word with
      | some a => readWords { style with attributes := (a, false) :: style.attributes } rest
      | none => .error .unknown
    | "link", word :: rest => readWords { style with link := some word } rest
    | small, rest =>
      match Attribute.ofWord? small with
      | some a => readWords { style with attributes := (a, true) :: style.attributes } rest
      | none => do
        let colour ← Colour.read small
        readWords { style with colour := some colour } rest

/-- the style that a text means -/
def read (cs : List Char) : Except StyleFault Style :=
  if trim cs = "none".toList then .ok plain else plain.readWords ((words cs).map String.ofList)

/-- what a style says of an attribute -/
def attributeText? (style : Style) (a : Attribute) : Option String :=
  (style.attributes.lookup a).map fun on => if on then a.name else "not " ++ a.name

/-- the normal form of a style -/
def normalForm (style : Style) : String :=
  let parts := Attribute.all.filterMap style.attributeText? ++ style.colour.toList ++
    (style.background.toList.map ("on " ++ ·)) ++ (style.link.toList.map ("link " ++ ·))
  if parts.isEmpty then "none" else " ".intercalate parts

end Style

/-- the normal form of a text that may be a style, or the share of a colour in it that is no number -/
def styleName (cs : List Char) : Except String String :=
  match Style.read cs with
  | .ok style => .ok style.normalForm
  | .error .unknown => .ok (String.ofList (lowered (trim cs)))
  | .error (.noInteger share) => .error share

end GrammarLab.Text
