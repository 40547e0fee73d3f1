/-
What the program does for a request.

A run prints text, reports events and writes files; it ends with a status, or fails where something goes wrong that is
none of the user's doing. What was printed, reported and written until then stays. A run is a value: nothing is done to a
console or a file system here.
-/
import GrammarLab.CommandLine.Request
import GrammarLab.Gallery
import GrammarLab.Grammar.Report
import GrammarLab.Tree.Outline
import GrammarLab.Tree.Svg

namespace GrammarLab.CommandLine

/-- what a setting is needed for that may have been left blank -/
inductive Need where
  | depth
  | limit
  | maxTrees
  | directory
  | budget
deriving DecidableEq, Repr

/-- why a run cannot go on -/
inductive Failure where
  /-- a setting has been left blank -/
  | blank (need : Need)
  | markup (reason : Text.MarkupError)
  | analysis (reason : AnalysisError)
  | parse (reason : Chart.ParseError)
  /-- there is nothing to typeset trees with -/
  | noTypesetter

def Failure.message : Failure → String
  | .blank .depth => "'<' not supported between instances of 'int' and 'list'"
  | .blank .limit => "'>' not supported between instances of 'int' and 'list'"
  | .blank .maxTrees => "slice indices must be integers or None or have an __index__ method"
  | .blank .directory => "'list' object has no attribute 'mkdir'"
  | .blank .budget => "unsupported operand type(s) for -=: 'list' and 'int'"
  | .markup reason => reason.message
  | .analysis reason => reason.message
  | .parse reason => reason.message
  | .noTypesetter => "graphviz 'dot' executable not found on PATH"

/-- a file with its contents, in a directory of its own -/
structure File where
  directory : String
  name : String
  contents : String

/-- what a run has done so far -/
structure Transcript where
  printed : String
  events : List Event
  files : List File

/-- a part of a run -/
abbrev Session := ExceptT Failure (StateM Transcript)

/-- the columns of the console -/
def consoleWidth : Nat := 1000

namespace Session

/-- print lines -/
def printLines (lines : List String) : Session Unit :=
  modify fun t => { t with printed := lines.foldl (fun s l => s ++ l ++ "\n") t.printed }

/-- print a text with markup -/
def print (s : String) : Session Unit :=
  match Text.Markup.lines consoleWidth s with
  | .ok lines => printLines lines
  | .error reason => throw (.markup reason)

/-- print a tree below its sentence -/
def printTree (tree : ParseTree) : Session Unit := do
  let sentence := tree.sentence
  print ("[italic]" ++ (if sentence.isEmpty then emptySign else sentence) ++ "[/italic]")
  match (Outline.ofTree tree).lines consoleWidth with
  | .ok lines => printLines lines
  | .error reason => throw (.markup reason)

def report (events : List Event) : Session Unit := modify fun t => { t with events := t.events ++ events }

def writeFiles (files : List File) : Session Unit := modify fun t => { t with files := t.files ++ files }

/-- the value of a setting, which must not be blank -/
def value {α : Type} (need : Need) : Setting α → Session α
  | .given a => pure a
  | .blank => throw (.blank need)

end Session

open Session

/-! ## Trees -/

/-- the first `n` elements, or all but the last `-n` -/
def firstOf {α : Type} (l : List α) (n : Int) : List α :=
  l.take (if n < 0 then (l.length + n).toNat else n.toNat)

/-- print the caption and the first trees of a gallery -/
def showGallery (gallery : Gallery) (maxTrees : Setting Int) : Session Unit := do
  print ("[bold]" ++ gallery.caption ++ "[/bold]")
  let maxTrees ← value .maxTrees maxTrees
  (firstOf gallery.trees maxTrees).forM printTree
  if maxTrees < gallery.trees.length then
    print ("... and " ++ toString (gallery.trees.length - maxTrees) ++ " more")

/-- the drawings of trees as files -/
def drawings (directory : String) (trees : List ParseTree) : List File :=
  trees.zipIdx.map fun (tree, i) => ⟨directory, "tree_" ++ toString i ++ ".svg", tree.toSvg⟩

/-- write the first trees of a gallery, and typeset the very first -/
def saveGallery (gallery : Gallery) (output : Output) : Session Unit := do
  if let some directory := output.directory then
    let directory ← value .directory directory
    let maxTrees ← value .maxTrees output.maxTrees
    writeFiles (drawings directory (firstOf gallery.trees maxTrees))
    report [.written (min maxTrees gallery.trees.length) directory]
  if output.pdf && !gallery.trees.isEmpty then
    throw .noTypesetter

/-- print and save a gallery -/
def present (gallery : Gallery × List Event) (output : Output) : Session Unit := do
  report gallery.2
  showGallery gallery.1 output.maxTrees
  saveGallery gallery.1 output

/-! ## Grammars -/

/-- print what is wrong with a grammar -/
def showIssues (g : Grammar) : Session Unit := do
  match g.issues with
  | .error reason => throw (.analysis reason)
  | .ok [] => return
  | .ok issues =>
    print "This grammar has the following problems:"
    issues.forM fun issue => print ("  • " ++ issue)

/-- print the table of the nonterminals -/
def showTable (g : Grammar) : Session Unit := do
  if !g.isEmpty then
    match g.analyse with
    | .error reason => throw (.analysis reason)
    | .ok a => print ("\n".intercalate a.table)

/-- do something with the grammar of the given rules, or say what is wrong with them; the status of the run -/
def withGrammar (verbose : Bool) (rules : RuleTexts) (next : Grammar → Session Unit) : Session Nat := do
  match Grammar.ofRules (rules.map fun r => (r.1.toList, r.2.toList)) with
  | .error reason =>
    print ("[bold red]Malformed grammar:[/bold red] " ++ reason.message)
    return 1
  | .ok g =>
    if verbose then print g.toMarkup
    showIssues g
    next g
    return 0

/-! ## Requests -/

/-- the limit of an enumeration down to a depth, which is needed as soon as there is a tree; the first trees are those of
productions without nonterminals -/
def enumerationLimit (g : Grammar) (depth : Option Int) : Setting Int → Session Int
  | .given n => pure n
  | .blank =>
    let hasTree := g.productions.any fun p => p.2.all g.isTerminal
    if hasTree && depth.all (0 < ·) then throw (.blank .limit) else pure 0

/-- the derivation trees of the start symbol -/
def derivations (g : Grammar) (depth : Option (Setting Int)) (limit : Setting Int) :
    Session (Gallery × List Event) := do
  if g.isEmpty then return Gallery.derivations g 0 none
  else
    let depth ← depth.mapM (value .depth)
    let limit ← enumerationLimit g depth limit
    return Gallery.derivations g limit depth

/-- the derivation trees of a sentence; a blank one has no symbols -/
def derivationsOf (g : Grammar) (sentence : Setting String) : Session (Gallery × List Event) :=
  let gallery := match sentence with
    | .given sentence => Gallery.ofSentence g sentence none
    | .blank => Gallery.ofSymbols g [] "[]" Chart.defaultLimit
  match gallery with
  | .error reason => throw (.parse reason)
  | .ok gallery => pure gallery

/-- the texts of an expression, or what is wrong with it -/
def preview (expression : String) (budget : Setting Int) : Session (String × List Event) :=
  match budget, Regex.read expression with
  | .given n, _ => pure (Regex.previewText expression n)
  | .blank, .error _ => pure (Regex.previewText expression 0)
  | .blank, .ok _ => throw (.blank .budget)

/-- do what is asked for; the status of the run -/
def serve (request : Request) : Session Nat :=
  match request.command with
  | .check rules => withGrammar request.verbose rules showTable
  | .derive rules depth limit output =>
    withGrammar request.verbose rules fun g => do present (← derivations g depth limit) output
  | .parse rules sentence output =>
    withGrammar request.verbose rules fun g => do present (← derivationsOf g sentence) output
  | .regex expression budget => do
    let (text, events) ← preview expression budget
    report events
    print text
    return 0

/-- how a run ended, and all that it did -/
structure Outcome where
  ending : Except Failure Nat
  /-- why the command line was refused -/
  complaint : String
  transcript : Transcript

/-- the run of the program of the given name on the words after it -/
def run (program : String) (words : List String) : Outcome :=
  match Request.read program words with
  | .ok request =>
    let (ending, transcript) := (serve request).run ⟨"", [], []⟩
    ⟨ending, "", transcript⟩
  | .error (.refused title refusal) => ⟨.ok 2, title ++ ": error: " ++ refusal.message, ⟨"", [], []⟩⟩
  | .error (.help title) => ⟨.ok 0, "", ⟨"usage: " ++ title ++ "\n", [], []⟩⟩

end GrammarLab.CommandLine
