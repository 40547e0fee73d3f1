/-
What the library reports while it works: the log, as values.

Operations return the events of a run beside their result, oldest first. `Event.message` has the wording.
-/
import GrammarLab.Text.Quoted

namespace GrammarLab

/-- how much an event matters -/
inductive Severity where
  | debug
  | info
  | warning
deriving DecidableEq, Repr

/-- a thing worth reporting -/
inductive Event where
  /-- the state set at a position is as large as it gets -/
  | stateSet (position size : Nat)
  /-- the state set at a position passed its limit, with items still waiting -/
  | stateSetFull (position : Nat) (limit : Int) (waiting : Nat)
  /-- a round of an enumeration came to its end -/
  | round (depth derivations size : Nat)
  /-- a round of an enumeration passed the size limit -/
  | sizeExceeded (limit : Int) (depth : Nat)
  /-- a gallery has been put together -/
  | gallery (caption : String) (trees : Nat)
  /-- an expression could not be read -/
  | malformed (source reason : String)
  /-- drawings were written to a directory -/
  | written (trees : Int) (directory : String)
deriving DecidableEq, Repr

namespace Event

def severity : Event → Severity
  | .stateSetFull .. => .warning
  | .sizeExceeded .. => .info
  | .written .. => .info
  | _ => .debug

def message : Event → String
  | .stateSet position size => "state set " ++ toString position ++ " has " ++ toString size ++ " items"
  | .stateSetFull position limit waiting =>
    "state set " ++ toString position ++ " exceeded " ++ toString limit ++ " items; " ++ toString waiting ++
      " items left unexplored"
  | .round depth derivations size =>
    "depth " ++ toString depth ++ ": " ++ toString derivations ++ " derivations, total size " ++ toString size
  | .sizeExceeded limit depth => "size limit " ++ toString limit ++ " exceeded at depth " ++ toString depth
  | .gallery caption trees => caption ++ ": " ++ toString trees ++ " trees"
  | .malformed source reason => "malformed expression " ++ Text.quoted source ++ ": " ++ reason
  | .written trees directory => "wrote " ++ toString trees ++ " trees to " ++ directory

end Event

end GrammarLab
