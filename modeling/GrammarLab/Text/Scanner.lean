/-
A scanner walks along a text one character at a time and knows where it is.

A complaint says what is wrong at the position reached; written out, it shows the text with a mark below the place.
-/
import GrammarLab.Text.Table

namespace GrammarLab.Text

/-- what is wrong at a place -/
inductive Fault where
  /-- a character that cannot stand there -/
  | unexpected (found : Char)
  /-- something else, or the end, where a certain text should stand -/
  | mismatch (found : Option Char) (expected : String)
  /-- anything else, in words -/
  | other (message : String)
deriving DecidableEq, Repr

def Fault.message : Fault → String
  | .unexpected found => "unexpected '" ++ found.toString ++ "'"
  | .mismatch (some found) expected => "'" ++ found.toString ++ "' found when expecting '" ++ expected ++ "'"
  | .mismatch none expected => "end of input found when expecting '" ++ expected ++ "'"
  | .other message => message

/-- a fault with the text that it is in and the number of characters before it -/
structure Complaint where
  fault : Fault
  source : String
  position : Nat
deriving DecidableEq, Repr

namespace Complaint

def message (c : Complaint) : String := c.fault.message

/-- the message with the text and a mark below the place -/
def pretty (c : Complaint) : String := c.message ++ "\n > " ++ c.source ++ "\n > " ++ spaces c.position ++ "^"

end Complaint

/-- a text, what is left of it, and the number of characters passed -/
structure Scanner where
  source : String
  rest : List Char
  position : Nat

namespace Scanner

/-- the scanner at the beginning of a text -/
def ofString (source : String) : Scanner := ⟨source, source.toList, 0⟩

/-- the current character as a text, empty at the end -/
def current (s : Scanner) : String := String.ofList (s.rest.take 1)

/-- one character further, unless at the end -/
def advance (s : Scanner) : Scanner :=
  match s.rest with
  | [] => s
  | _ :: rest => { s with rest, position := s.position + 1 }

theorem length_advance_le (s : Scanner) : s.advance.rest.length ≤ s.rest.length := by
  unfold advance
  split <;> simp [*]

theorem length_advance_lt (s : Scanner) (h : s.rest ≠ []) : s.advance.rest.length < s.rest.length := by
  unfold advance
  split <;> simp_all

/-- the complaint that something is wrong here -/
def complain (s : Scanner) (fault : Fault) : Complaint := ⟨fault, s.source, s.position⟩

/-- one character further if the current one is as expected -/
def expect (s : Scanner) (expected : String) : Except Complaint Scanner :=
  if s.current = expected then .ok s.advance else .error (s.complain (.mismatch s.rest.head? expected))

theorem length_expect_le {s s' : Scanner} {expected : String} (h : s.expect expected = .ok s') :
    s'.rest.length ≤ s.rest.length := by
  unfold expect at h
  split at h
  · cases h
    exact s.length_advance_le
  · cases h

end Scanner

end GrammarLab.Text
