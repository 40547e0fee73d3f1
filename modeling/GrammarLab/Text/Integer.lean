/-
Integers as text, for people to type.

Blanks may stand around an integer, a sign before it and single underscores between its digits. The digits may be those
of any script: every script has its ten in a row, so the code point of its zero tells the value of the others. An integer
of more than 4300 digits is refused.
-/
import GrammarLab.Text.Blank

namespace GrammarLab.Text

/-- the code points of the zeros of all scripts, those of Unicode 14 -/
def zeros : List Nat :=
  [0x30, 0x660, 0x6F0, 0x7C0, 0x966, 0x9E6, 0xA66, 0xAE6, 0xB66, 0xBE6, 0xC66, 0xCE6, 0xD66, 0xDE6, 0xE50, 0xED0,
   0xF20, 0x1040, 0x1090, 0x17E0, 0x1810, 0x1946, 0x19D0, 0x1A80, 0x1A90, 0x1B50, 0x1BB0, 0x1C40, 0x1C50, 0xA620,
   0xA8D0, 0xA900, 0xA9D0, 0xA9F0, 0xAA50, 0xABF0, 0xFF10, 0x104A0, 0x10D30, 0x11066, 0x110F0, 0x11136, 0x111D0,
   0x112F0, 0x11450, 0x114D0, 0x11650, 0x116C0, 0x11730, 0x118E0, 0x11950, 0x11C50, 0x11D50, 0x11DA0, 0x16A60,
   0x16AC0, 0x16B50, 0x1D7CE, 0x1D7D8, 0x1D7E2, 0x1D7EC, 0x1D7F6, 0x1E140, 0x1E2F0, 0x1E950, 0x1FBF0]

/-- the value of a digit -/
def digitValue? (c : Char) : Option Nat :=
  (zeros.find? fun z => z ≤ c.toNat && c.toNat < z + 10).map fun z => c.toNat - z

def isDigit (c : Char) : Bool := (digitValue? c).isSome

/-- whether a text is one or more digits -/
def isNumeral (cs : List Char) : Bool := !cs.isEmpty && cs.all isDigit

/-- the value of digits -/
def numeralValue (cs : List Char) : Nat := cs.foldl (fun n c => 10 * n + (digitValue? c).getD 0) 0

/-- how many digits an integer may have -/
def mostDigits : Nat := 4300

/-- the natural number that digits with single underscores between them stand for -/
def readNatural (cs : List Char) : Option Nat :=
  let groups := splitAt '_' cs
  if groups.all isNumeral && groups.flatten.length ≤ mostDigits then some (numeralValue groups.flatten) else none

/-- the blanks that may stand around an integer, all but the four separators below the space -/
def isPadding (c : Char) : Bool := isBlank c && !(0x1C ≤ c.toNat && c.toNat ≤ 0x1F)

/-- the integer that a text stands for -/
def readInteger (s : String) : Option Int :=
  match ((s.toList.dropWhile isPadding).reverse.dropWhile isPadding).reverse with
  | '-' :: cs => (readNatural cs).map fun n => -(n : Int)
  | '+' :: cs => (readNatural cs).map fun n => (n : Int)
  | cs => (readNatural cs).map fun n => (n : Int)

end GrammarLab.Text
