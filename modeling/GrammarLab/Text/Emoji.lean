/-
Emoji codes: the name of an emoji between two colons stands for the emoji.

Capitals count as small letters. `-emoji` after the name asks for a picture and `-text` for a plain character, by the
selector that follows the emoji then. Between the colons there is no blank. A code without an emoji stays as it is, and
its second colon begins no other code.
-/
import GrammarLab.Text.Blank
import GrammarLab.Text.Case
import GrammarLab.Text.Emoji.Names
import Std.Data.HashMap

namespace GrammarLab.Text.Emoji

/-! ## Names -/

/-- the value of a hexadecimal digit in small letters -/
def hexDigitValue (c : Char) : Nat := if c.isDigit then c.toNat - 0x30 else c.toNat - 0x61 + 10

/-- the characters whose code points are given in hexadecimal digits, with dashes between them -/
def readCodePoints (cs : List Char) : List Char :=
  (splitAt '-' cs).map fun digits => Char.ofNat (digits.foldl (fun n c => 16 * n + hexDigitValue c) 0)

/-- the skin tones, as names go on with them -/
def skinTones : List (String × Char) :=
  [("_light_skin_tone", .ofNat 0x1F3FB), ("_medium-light_skin_tone", .ofNat 0x1F3FC),
   ("_medium_skin_tone", .ofNat 0x1F3FD), ("_medium-dark_skin_tone", .ofNat 0x1F3FE),
   ("_dark_skin_tone", .ofNat 0x1F3FF)]

/-- an emoji in a skin tone, which takes the place of a selector after its first character -/
def withTone (emoji : List Char) (tone : Char) : List Char :=
  match emoji with
  | c :: '\ufe0f' :: rest => c :: tone :: rest
  | c :: rest => c :: tone :: rest
  | [] => [tone]

/-- the emoji of a name in the table, and those in skin tones if there are any -/
def readName (emoji : List Char) : List Char → List (String × List Char)
  | '~' :: name =>
    (String.ofList name, emoji) ::
      skinTones.map fun (suffix, tone) => (String.ofList name ++ suffix, withTone emoji tone)
  | name => [(String.ofList name, emoji)]

/-- the names of an entry of the table -/
def readEntry (entry : List Char) : List (String × List Char) :=
  let codePoints := entry.takeWhile (· ≠ '=')
  (splitAt ',' (entry.drop (codePoints.length + 1))).flatMap (readName (readCodePoints codePoints))

/-- the emoji by name -/
def table : Std.HashMap String (List Char) :=
  .ofList (entries.flatMap fun line => (splitAt ' ' line.toList).flatMap readEntry)

/-! ## Codes -/

/-- a name without what it says about the look of the emoji, and the selector for that -/
def splitLook (name : List Char) : List Char × List Char :=
  if "-emoji".toList.isSuffixOf name then (name.take (name.length - 6), ['\ufe0f'])
  else if "-text".toList.isSuffixOf name then (name.take (name.length - 5), ['\ufe0e'])
  else (name, [])

/-- the emoji that a name between colons stands for -/
def ofCode? (name : List Char) : Option (List Char) :=
  let (name, selector) := splitLook name
  table[String.ofList (lowered name)]?.map (· ++ selector)

/-- the text with emoji for their codes -/
def replaceCodes (cs : List Char) : List Char :=
  match cs with
  | [] => []
  | ':' :: rest =>
    let name := rest.takeWhile fun c => c ≠ ':' && !isBlank c
    if rest[name.length]? = some ':' then
      (ofCode? name).getD (':' :: name ++ [':']) ++ replaceCodes (rest.drop (name.length + 1))
    else ':' :: replaceCodes rest
  | c :: rest => c :: replaceCodes rest
termination_by cs.length
decreasing_by
  all_goals simp only [List.length_cons, List.length_drop]
  all_goals omega

end GrammarLab.Text.Emoji
