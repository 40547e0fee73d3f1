/-
Character entities: text as the content of a markup element.

Five characters are written as entities, all others stand for themselves, so what is written holds no angle bracket and
no quote.
-/

namespace GrammarLab.Text

/-- one character as content of an element -/
def entity (c : Char) : List Char :=
  if c = '&' then "&amp;".toList
  else if c = '<' then "&lt;".toList
  else if c = '>' then "&gt;".toList
  else if c = '\x22' then "&quot;".toList
  else if c = '\x27' then "&#x27;".toList
  else [c]

/-- a text as content of an element -/
def escapeEntities (s : String) : String := String.ofList (s.toList.flatMap entity)

end GrammarLab.Text
