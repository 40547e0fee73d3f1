/-
Reading documents made of elements.

`read` goes through a document character by character and keeps a stack of the elements that are open. It takes a document
only if every bracket belongs to a tag and every element is closed by its own name; quotes inside a tag hide the bracket
that would end it.
- `run_plain`: a text without brackets and quotes changes nothing but the text or the tag at hand;
- `Writes w n` says that wherever content is expected, the text `w` is read as the node `n`. Elements without and with
  content are written in this sense (`writes_empty`, `writes_element`), and what is written this way is read back
  (`Writes.read_eq`).
-/
import GrammarLab.Proofs.Text.Entity

namespace GrammarLab.Document

open Text (plain)

/-! ## The reader -/

/-- a part of a document, texts as they are written -/
inductive Node where
  | text (content : String)
  /-- what is between the brackets of the tag, and what comes before the closing tag -/
  | element (tag : String) (children : List Node)

namespace Node

def isElement : Node → Bool
  | text _ => false
  | element _ _ => true

def text? : Node → Option String
  | text content => some content
  | element _ _ => none

/-- the texts of a node, those of the elements in it left out -/
def content : Node → String
  | text content => content
  | element _ children => String.join (children.filterMap text?)

mutual

/-- a node without the texts in it -/
def bare : Node → List Node
  | text _ => []
  | element tag children => [element tag (allBare children)]

/-- nodes without the texts -/
def allBare : List Node → List Node
  | [] => []
  | n :: ns => n.bare ++ allBare ns

end

end Node

inductive Mode where
  | content
  | tag
  /-- within a tag, after a quote that has not been closed -/
  | quoted
deriving DecidableEq

/-- an element whose closing tag has not been read -/
structure Frame where
  tag : List Char
  /-- the nodes before the element in its parent -/
  before : List Node

structure State where
  mode : Mode
  /-- what has been read of the text or the tag at hand -/
  buffer : List Char
  /-- the nodes read in the innermost open element -/
  nodes : List Node
  /-- the open elements, the innermost first -/
  opened : List Frame

/-- the node of a text, unless it is empty -/
def pending (cs : List Char) : List Node := if cs = [] then [] else [.text (String.ofList cs)]

/-- the name in a tag -/
def name (tag : List Char) : List Char := tag.takeWhile (· ≠ ' ')

/-- the name of an element -/
def Node.tagName? : Node → Option String
  | .text _ => none
  | .element tag _ => some (String.ofList (name tag.toList))

/-- what a tag does: one with a slash in front closes the innermost element, one with a slash at its end is an element
without content, and any other opens an element -/
def endTag (s : State) : Option State :=
  match s.buffer, s.opened with
  | '/' :: _, [] => none
  | '/' :: closing, ⟨tag, before⟩ :: opened =>
    if closing = name tag then some ⟨.content, [], before ++ [.element (String.ofList tag) s.nodes], opened⟩ else none
  | tag, opened =>
    if tag.getLast? = some '/' then
      some ⟨.content, [], s.nodes ++ [.element (String.ofList tag.dropLast) []], opened⟩
    else some ⟨.content, [], [], ⟨tag, s.nodes⟩ :: opened⟩

/-- one character -/
def step (s : State) (c : Char) : Option State :=
  match s.mode with
  | .content =>
    if c = '<' then some ⟨.tag, [], s.nodes ++ pending s.buffer, s.opened⟩
    else if c = '>' then none
    else some { s with buffer := s.buffer ++ [c] }
  | .tag =>
    if c = '<' then none
    else if c = '>' then endTag s
    else some { s with mode := if c = '\x22' then .quoted else .tag, buffer := s.buffer ++ [c] }
  | .quoted =>
    if c = '<' then none else some { s with mode := if c = '\x22' then .tag else .quoted, buffer := s.buffer ++ [c] }

def run (s : State) (cs : List Char) : Option State := cs.foldlM step s

/-- the nodes of a document -/
def read (document : String) : Option (List Node) :=
  match run ⟨.content, [], [], []⟩ document.toList with
  | some ⟨.content, buffer, nodes, []⟩ => some (nodes ++ pending buffer)
  | _ => none

/-! ## Runs -/

variable {s s' : State} {mode : Mode} {w w' b tag : List Char} {ns before : List Node} {opened : List Frame} {n : Node}

theorem run_append (h : run s w = some s') : run s (w ++ w') = run s' w' := by
  unfold run at h ⊢
  rw [List.foldlM_append, h]
  rfl

theorem run_cons {c : Char} (h : step s c = some s') : run s (c :: w) = run s' w := by
  unfold run
  rw [List.foldlM_cons, h]
  rfl

theorem step_plain {c : Char} (h : plain c = true) :
    step ⟨mode, b, ns, opened⟩ c = some ⟨mode, b ++ [c], ns, opened⟩ := by
  simp only [plain, Bool.and_eq_true, bne_iff_ne] at h
  obtain ⟨⟨hopen, hclose⟩, hquote⟩ := h
  cases mode with
  | content => simp [step, hopen, hclose]
  | tag => simp [step, hopen, hclose, hquote]
  | quoted => simp [step, hopen, hquote]

theorem run_plain (h : ∀ c ∈ w, plain c = true) :
    run ⟨mode, b, ns, opened⟩ w = some ⟨mode, b ++ w, ns, opened⟩ := by
  induction w generalizing b with
  | nil => simp [run]
  | cons c w ih =>
    rw [run_cons (step_plain (h c List.mem_cons_self)), ih fun d hd => h d (List.mem_cons_of_mem c hd),
      List.append_assoc, List.singleton_append]

/-- a text that can stand in a tag: reading it does not end the tag -/
def Inside (w : List Char) : Prop := ∀ b ns opened, run ⟨.tag, b, ns, opened⟩ w = some ⟨.tag, b ++ w, ns, opened⟩

theorem inside_plain (h : ∀ c ∈ w, plain c = true) : Inside w := fun _ _ _ => run_plain h

theorem Inside.append (h : Inside w) (h' : Inside w') : Inside (w ++ w') := by
  intro b ns opened
  rw [run_append (h b ns opened), h', List.append_assoc]

/-- a value in quotes -/
theorem inside_quoted (h : ∀ c ∈ w, plain c = true) : Inside ('\x22' :: (w ++ ['\x22'])) := by
  intro b ns opened
  have hopen : step ⟨.tag, b, ns, opened⟩ '\x22' = some ⟨.quoted, b ++ ['\x22'], ns, opened⟩ := rfl
  have hclose : run ⟨.quoted, b ++ ['\x22'] ++ w, ns, opened⟩ ['\x22'] =
      some ⟨.tag, b ++ ['\x22'] ++ w ++ ['\x22'], ns, opened⟩ := rfl
  rw [run_cons hopen, run_append (run_plain h), hclose]
  simp

/-! ## Elements -/

/-- a text that opens an element of some name when it stands in a tag -/
structure Opens (tagName w : List Char) : Prop where
  inside : Inside w
  name_eq : name w = tagName
  head : w.head? ≠ some '/'
  last : w.getLast? ≠ some '/'

/-- wherever content is expected, the text is read as the node -/
def Writes (w : List Char) (n : Node) : Prop :=
  ∀ b ns opened, run ⟨.content, b, ns, opened⟩ w = some ⟨.content, [], ns ++ pending b ++ [n], opened⟩

/-- wherever content is expected and no text is at hand, the text is read as the nodes -/
def WritesAll (w : List Char) (ms : List Node) : Prop :=
  ∀ ns opened, run ⟨.content, [], ns, opened⟩ w = some ⟨.content, [], ns ++ ms, opened⟩

theorem step_open (b : List Char) (ns : List Node) (opened : List Frame) :
    step ⟨.content, b, ns, opened⟩ '<' = some ⟨.tag, [], ns ++ pending b, opened⟩ := rfl

theorem run_close_bracket (b : List Char) (ns : List Node) (opened : List Frame) :
    run ⟨.tag, b, ns, opened⟩ ['>'] = endTag ⟨.tag, b, ns, opened⟩ := by
  change (endTag ⟨.tag, b, ns, opened⟩).bind some = _
  exact Option.bind_fun_some _

theorem endTag_of_head (h : b.head? ≠ some '/') :
    endTag ⟨mode, b, ns, opened⟩ =
      if b.getLast? = some '/' then some ⟨.content, [], ns ++ [.element (String.ofList b.dropLast) []], opened⟩
      else some ⟨.content, [], [], ⟨b, ns⟩ :: opened⟩ := by
  unfold endTag
  split
  case h_1 hslash _ => exact absurd (congrArg List.head? hslash) h
  case h_2 hslash _ => exact absurd (congrArg List.head? hslash) h
  case h_3 => rfl

theorem run_opening {tagName : List Char} (h : Opens tagName w) :
    run ⟨.content, b, ns, opened⟩ ('<' :: (w ++ ['>'])) = some ⟨.content, [], [], ⟨w, ns ++ pending b⟩ :: opened⟩ := by
  rw [run_cons (step_open b ns opened), run_append (h.inside _ _ _), List.nil_append, run_close_bracket,
    endTag_of_head h.head, if_neg h.last]

theorem run_closing (h : ∀ c ∈ w, plain c = true) (hname : name tag = w) :
    run ⟨.content, b, ns, ⟨tag, before⟩ :: opened⟩ ('<' :: '/' :: (w ++ ['>'])) =
      some ⟨.content, [], before ++ [.element (String.ofList tag) (ns ++ pending b)], opened⟩ := by
  have hslash : step ⟨.tag, [], ns ++ pending b, ⟨tag, before⟩ :: opened⟩ '/' =
      some ⟨.tag, ['/'], ns ++ pending b, ⟨tag, before⟩ :: opened⟩ := rfl
  rw [run_cons (step_open _ _ _), run_cons hslash, run_append (run_plain h), run_close_bracket]
  simp [endTag, hname]

/-- an element without content -/
theorem writes_empty {tagName : List Char} (h : Opens tagName w) (hne : w ≠ []) :
    Writes ('<' :: (w ++ ['/', '>'])) (.element (String.ofList w) []) := by
  intro b ns opened
  have hslash : run ⟨.tag, w, ns ++ pending b, opened⟩ ['/', '>'] =
      endTag ⟨.tag, w ++ ['/'], ns ++ pending b, opened⟩ := by
    rw [run_cons (step_plain (by decide)), run_close_bracket]
  have hhead : (w ++ ['/']).head? ≠ some '/' := by
    rw [List.head?_append_of_ne_nil w hne]
    exact h.head
  rw [run_cons (step_open b ns opened), run_append (h.inside _ _ _), List.nil_append, hslash, endTag_of_head hhead,
    List.getLast?_concat, if_pos rfl, List.dropLast_concat]

/-- an element with nodes and then a text in it -/
theorem writes_element {tagName : List Char} {ms : List Node} (h : Opens tagName w)
    (hname : ∀ c ∈ tagName, plain c = true) (hnodes : WritesAll w' ms) (htext : ∀ c ∈ b, plain c = true) :
    Writes ('<' :: (w ++ ['>']) ++ (w' ++ b) ++ '<' :: '/' :: (tagName ++ ['>']))
      (.element (String.ofList w) (ms ++ pending b)) := by
  intro b' ns opened
  rw [List.append_assoc, run_append (run_opening h), List.append_assoc, run_append (hnodes _ _),
    run_append (run_plain htext), run_closing hname h.name_eq]
  rfl

theorem writesAll_nil : WritesAll [] [] := by
  intro ns opened
  rw [List.append_nil]
  rfl

theorem Writes.writesAll (h : Writes w n) : WritesAll w [n] := by
  intro ns opened
  rw [h]
  simp [pending]

/-- a text before an element -/
theorem Writes.writesAll_after (h : Writes w n) (hb : ∀ c ∈ b, plain c = true) :
    WritesAll (b ++ w) (pending b ++ [n]) := by
  intro ns opened
  rw [run_append (run_plain hb), List.nil_append, h, List.append_assoc]

/-- parts one after another -/
theorem writesAll_flatMap {α : Type} {l : List α} {text : α → List Char} {nodes : α → List Node}
    (h : ∀ a ∈ l, WritesAll (text a) (nodes a)) : WritesAll (l.flatMap text) (l.flatMap nodes) := by
  induction l with
  | nil => exact writesAll_nil
  | cons a l ih =>
    intro ns opened
    have hothers := ih fun d hd => h d (List.mem_cons_of_mem a hd)
    rw [List.flatMap_cons, List.flatMap_cons, run_append (h a List.mem_cons_self ns opened), hothers, List.append_assoc]

/-- **What is written is read back.** -/
theorem Writes.read_eq {document : String} (h : Writes document.toList n) : read document = some [n] := by
  unfold read
  rw [h]
  simp [pending]

example : (read "<g><a x=\"1\"/>b</g>").isSome = true := by decide

/-- elements that overlap -/
example : read "<g><a></g></a>" = none := by rfl

/-- an attribute that ends early -/
example : read "<a x=\"\"/>\"/>" = none := by rfl

end GrammarLab.Document
