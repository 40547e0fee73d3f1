/-
Sample grammars, small ones that each show one thing a grammar can do.
-/

namespace GrammarLab

/-- sample grammars by name, as text for the reader -/
def sampleGrammars : List (String × String) :=
  [("ANBN", "S -> aSb |"),
   ("DYCK", "S -> (S)S |"),
   ("RIGHT_LINEAR", "S -> aS | a"),
   ("AMBIGUOUS_CONCAT", "S -> SS | a"),
   ("AMBIGUOUS_PLUS_MINUS", "A -> A+A | A-A | a"),
   ("ARITHMETIC", "E -> E+T | T\nT -> T*F | F\nF -> (E) | x | y"),
   ("PALINDROMES", "P -> aPa | bPb | a | b |"),
   ("FINITE", "S -> a | b"),
   ("UNREACHABLE", "S -> A\nA -> a\nB -> b"),
   ("UNREALIZABLE", "S -> aS | A | c\nA -> bA"),
   ("NULLABLE", "S -> AB\nA -> | a\nB ->"),
   ("CYCLIC", "S -> S | a"),
   ("CYCLIC_UNREACHABLE", "S -> a\nC -> C | c"),
   ("NULLABLE_CYCLE", "S -> ASB | c\nA -> | a\nB ->")]

end GrammarLab
