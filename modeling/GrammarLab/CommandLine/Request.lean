/-
What the program can be asked for on its command line.

There are four commands: to check a grammar, to show its derivation trees, to show those of a sentence, and to show the
texts of a regular expression. A grammar is given by rules, each a name, an equals sign and alternatives. A flag whose
value is two dashes is left blank; nothing is wrong with that until somebody needs the value.
-/
import GrammarLab.CommandLine.Form
import GrammarLab.Derivation.Enumerator
import GrammarLab.Language.Preview

namespace GrammarLab.CommandLine

/-- the value of a flag -/
inductive Setting (α : Type) where
  | given (a : α)
  | blank
deriving DecidableEq, Repr

/-- how many trees are shown, and what becomes of them besides -/
structure Output where
  maxTrees : Setting Int
  /-- where the trees are written as drawings -/
  directory : Option (Setting String)
  /-- the first tree is to be typeset -/
  pdf : Bool
deriving DecidableEq, Repr

/-- rules as pairs of texts, a name and its alternatives -/
abbrev RuleTexts := List (String × String)

/-- something to do -/
inductive Command where
  | check (rules : RuleTexts)
  | derive (rules : RuleTexts) (depth : Option (Setting Int)) (limit : Setting Int) (output : Output)
  | parse (rules : RuleTexts) (sentence : Setting String) (output : Output)
  | regex (expression : String) (budget : Setting Int)
deriving DecidableEq, Repr

/-- something to do, and whether to say more about it -/
structure Request where
  verbose : Bool
  command : Command
deriving DecidableEq, Repr

/-! ## Values -/

/-- a rule as one word: what stands before the first equals sign and after it -/
def readRule (word : String) : Except ArgumentFault (String × String) :=
  match Form.splitValue word with
  | (name, some alternatives) => .ok (name, alternatives)
  | (_, none) => .error (.noRule word)

/-- an integer as one word -/
def readInt (word : String) : Except ArgumentFault Int :=
  match Text.readInteger word with
  | some n => .ok n
  | none => .error (.noInteger word)

/-- the root of a path, two slashes or one if there are any others, and nothing without any -/
def pathRoot (cs : List Char) : List Char :=
  match (cs.takeWhile (· = '/')).length with
  | 0 => []
  | 2 => ['/', '/']
  | _ => ['/']

/-- a directory, without slashes and single dots that say nothing -/
def readDirectory (word : String) : String :=
  let parts := (Text.splitAt '/' word.toList).filter fun part => part ≠ [] ∧ part ≠ ['.']
  let path := pathRoot word.toList ++ ['/'].intercalate parts
  if path.isEmpty then "." else String.ofList path

variable {σ : Type}

/-- an optional flag with a value -/
def valueFlag {α : Type} (spelling : String) (read : String → Except ArgumentFault α) (set : Setting α → σ → σ) :
    Flag σ :=
  let readSetting (word : String) : Except ArgumentFault (Setting α) :=
    if word = "--" then .ok .blank else (read word).map .given
  ⟨[spelling], .value fun word settings => (readSetting word).map fun a => set a settings, false⟩

/-- a flag without a value -/
def switchFlag (spelling : String) (set : σ → σ) : Flag σ := ⟨[spelling], .switch set, false⟩

def helpFlag : Flag σ := ⟨["-h", "--help"], .help, false⟩

/-- an operand of one or more rules -/
def rulesOperand (title : String) (set : RuleTexts → σ → σ) : Operand σ :=
  ⟨"rules", .run, fun words settings =>
    ((words.mapM readRule).map fun rules => set rules settings).mapError fun reason =>
      .refused title (.fault "rules" reason)⟩

/-! ## Commands -/

def Output.usual : Output := ⟨.given 20, none, false⟩

def maxTreesFlag (change : (Output → Output) → σ → σ) : Flag σ :=
  valueFlag "--max-trees" readInt fun n => change fun o => { o with maxTrees := n }

/-- the flags that say what becomes of the trees -/
def outputFlags (change : (Output → Output) → σ → σ) : List (Flag σ) :=
  [valueFlag "--svg" (fun word => .ok (readDirectory word)) fun directory => change fun o => { o with directory := some directory },
   switchFlag "--pdf" (change fun o => { o with pdf := true })]

def readCheck (title : String) (words : List String) : Except Stop (Command × List String) := do
  let form : Form RuleTexts := ⟨title, [helpFlag], rulesOperand title fun rules _ => rules⟩
  let (rules, leftOver) ← form.read [] words
  return (.check rules, leftOver)

/-- the settings of the command that shows derivation trees -/
structure DeriveSettings where
  rules : RuleTexts
  depth : Option (Setting Int)
  limit : Setting Int
  output : Output

def readDerive (title : String) (words : List String) : Except Stop (Command × List String) := do
  let change (f : Output → Output) (s : DeriveSettings) : DeriveSettings := { s with output := f s.output }
  let form : Form DeriveSettings :=
    ⟨title,
      [helpFlag, valueFlag "--depth" readInt fun n s => { s with depth := some n },
        valueFlag "--limit" readInt fun n s => { s with limit := n }, maxTreesFlag change] ++ outputFlags change,
      rulesOperand title fun rules s => { s with rules }⟩
  let (s, leftOver) ← form.read ⟨[], none, .given Enumerator.defaultLimit, .usual⟩ words
  return (.derive s.rules s.depth s.limit s.output, leftOver)

/-- the settings of the command that shows the derivation trees of a sentence -/
structure ParseSettings where
  rules : RuleTexts
  sentence : Setting String
  output : Output

def readParse (title : String) (words : List String) : Except Stop (Command × List String) := do
  let change (f : Output → Output) (s : ParseSettings) : ParseSettings := { s with output := f s.output }
  let sentenceFlag : Flag ParseSettings :=
    { valueFlag "--sentence" .ok fun sentence (s : ParseSettings) => { s with sentence } with required := true }
  let form : Form ParseSettings :=
    ⟨title, [helpFlag, sentenceFlag, maxTreesFlag change] ++ outputFlags change,
      rulesOperand title fun rules s => { s with rules }⟩
  let (s, leftOver) ← form.read ⟨[], .blank, .usual⟩ words
  return (.parse s.rules s.sentence s.output, leftOver)

/-- the settings of the command that shows the texts of an expression -/
structure RegexSettings where
  expression : String
  budget : Setting Int

def readRegex (title : String) (words : List String) : Except Stop (Command × List String) := do
  let form : Form RegexSettings :=
    ⟨title, [helpFlag, valueFlag "--budget" readInt fun n s => { s with budget := n }],
      ⟨"expression", .one, fun words s => .ok { s with expression := words.headD "" }⟩⟩
  let (s, leftOver) ← form.read ⟨"", .given Regex.previewLimit⟩ words
  return (.regex s.expression s.budget, leftOver)

/-- the commands by name -/
def commands : List (String × (String → List String → Except Stop (Command × List String))) :=
  [("check", readCheck), ("derive", readDerive), ("parse", readParse), ("regex", readRegex)]

/-- a command and its own words -/
def readCommand (title : String) : List String → Except Stop (Option (Command × List String))
  | [] => .ok none
  | name :: words =>
    match commands.lookup name with
    | some read => (read (title ++ " " ++ name) words).map some
    | none => .error (.refused title (.fault "command" (.noChoice name (commands.map (·.1)))))

/-! ## Requests -/

/-- the settings of the whole command line -/
structure RequestSettings where
  verbose : Bool
  command : Option (Command × List String)

/-- the request that the words after the program's name make -/
def Request.read (program : String) (words : List String) : Except Stop Request := do
  let form : Form RequestSettings :=
    ⟨program, [helpFlag, switchFlag "--verbose" fun s => { s with verbose := true }],
      ⟨"command", .rest, fun words s => (readCommand program words).map fun command => { s with command }⟩⟩
  let (s, leftOver) ← form.read ⟨false, none⟩ words
  match s.command with
  | none => .error (.refused program (.missing ["command"]))
  | some (command, further) =>
    match leftOver ++ further with
    | [] => return ⟨s.verbose, command⟩
    | words => .error (.refused program (.leftOver words))

end GrammarLab.CommandLine
