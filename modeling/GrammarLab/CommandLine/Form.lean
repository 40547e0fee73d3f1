/-
Forms of command lines, and how the words of a command line fill them in.

A form has flags and one operand. A flag stands anywhere, is spelled in full or by an unambiguous beginning, and may take
a value, either the next word or what follows an equals sign. Letters attached to a flag of one letter are flags of one
letter themselves. The operand takes the first run of words that belong to no
flag: one word, all words of the run, or all that is left. After `--` every word is plain. A word that begins with a dash
is no value unless it is a negative number or has a space in it. What fits nowhere is left over, and whoever asked for
the reading decides what to do about it.

Filling in a form changes settings of a type of its own. The first thing wrong, in the order of the words, is reported;
only a flag or operand that is missing is reported after that.
-/
import GrammarLab.Text.Integer
import GrammarLab.Text.Quoted

namespace GrammarLab.CommandLine

open Text

/-- what is wrong with the value of an argument -/
inductive ArgumentFault where
  /-- a rule without an equals sign -/
  | noRule (word : String)
  | noInteger (word : String)
  | noChoice (word : String) (choices : List String)
  /-- a flag without the value that it takes -/
  | noValue
  /-- a value for a flag that takes none -/
  | extraValue (word : String)
deriving DecidableEq, Repr

def ArgumentFault.message : ArgumentFault → String
  | .noRule word => "expected lhs=rhs, got " ++ quoted word
  | .noInteger word => "invalid int value: " ++ quoted word
  | .noChoice word choices =>
    "invalid choice: " ++ quoted word ++ " (choose from " ++ ", ".intercalate (choices.map quoted) ++ ")"
  | .noValue => "expected one argument"
  | .extraValue word => "ignored explicit argument " ++ quoted word

/-- why a command line is refused -/
inductive Refusal where
  | fault (argument : String) (reason : ArgumentFault)
  | ambiguous (word : String) (spellings : List String)
  | missing (arguments : List String)
  | leftOver (words : List String)
deriving DecidableEq, Repr

def Refusal.message : Refusal → String
  | .fault argument reason => "argument " ++ argument ++ ": " ++ reason.message
  | .ambiguous word spellings => "ambiguous option: " ++ word ++ " could match " ++ ", ".intercalate spellings
  | .missing arguments => "the following arguments are required: " ++ ", ".intercalate arguments
  | .leftOver words => "unrecognized arguments: " ++ " ".intercalate words

/-- the end of a reading before its time -/
inductive Stop where
  /-- the form of that title cannot be filled in -/
  | refused (title : String) (refusal : Refusal)
  /-- somebody asked what the form of that title is for -/
  | help (title : String)
deriving DecidableEq, Repr

/-- what a flag does -/
inductive Effect (σ : Type) where
  | help
  | switch (set : σ → σ)
  | value (read : String → σ → Except ArgumentFault σ)

/-- an argument with a name of its own -/
structure Flag (σ : Type) where
  spellings : List String
  effect : Effect σ
  required : Bool

/-- how much an operand takes -/
inductive Room where
  | one
  | run
  | rest
deriving DecidableEq, Repr

/-- the argument without a name; its words are the operand's own business, and so is what they are refused for -/
structure Operand (σ : Type) where
  name : String
  room : Room
  read : List String → σ → Except Stop σ

/-- a form with its title -/
structure Form (σ : Type) where
  title : String
  flags : List (Flag σ)
  operand : Operand σ

/-- a word and what it is taken for -/
inductive Token (σ : Type) where
  | plain (word : String)
  /-- the first `--` -/
  | separator
  | flag (word : String) (flag : Flag σ) (value : Option String)
  /-- a word that looks like a flag -/
  | unknown (word : String)

namespace Token

variable {σ : Type}

/-- the word as it stands -/
def word : Token σ → String
  | plain w => w
  | separator => "--"
  | flag w _ _ => w
  | unknown w => w

/-- whether the word belongs to no flag -/
def isLoose : Token σ → Bool
  | plain _ => true
  | separator => true
  | flag _ _ _ => false
  | unknown _ => false

/-- the word, if it is plain -/
def plain? : Token σ → Option String
  | plain w => some w
  | separator => none
  | flag _ _ _ => none
  | unknown _ => none

/-- the tokens without a separator at the beginning -/
def skipSeparator : List (Token σ) → List (Token σ)
  | separator :: ts => ts
  | ts => ts

end Token

variable {σ : Type}

/-- how a flag is called in messages -/
def Flag.name (flag : Flag σ) : String := "/".intercalate flag.spellings

namespace Form

/-! ## Words -/

/-- every spelling with its flag -/
def spellings (form : Form σ) : List (String × Flag σ) :=
  form.flags.flatMap fun flag => flag.spellings.map fun s => (s, flag)

/-- what stands before the first equals sign, and after it if there is one -/
def splitValue (w : String) : String × Option String :=
  match w.toList.dropWhile (· ≠ '=') with
  | [] => (w, none)
  | _ :: value => (String.ofList (w.toList.takeWhile (· ≠ '=')), some (String.ofList value))

/-- the flags that a word may be short for, by spelling -/
def candidates (form : Form σ) (w : String) : List (String × Flag σ × Option String) :=
  let (name, value) := splitValue w
  if w.toList.take 2 = ['-', '-'] then
    (form.spellings.filter fun s => name.toList.isPrefixOf s.1.toList).map fun s => (s.1, s.2, value)
  else
    (form.spellings.filter fun s => s.1.toList = w.toList.take 2).map fun s =>
      (s.1, s.2, some (String.ofList (w.toList.drop 2)))

/-- whether a word is a negative number, with or without a fraction; a line feed may follow it -/
def isNegative (w : String) : Bool :=
  let cs := if w.toList.getLast? = some '\n' then w.toList.dropLast else w.toList
  match cs with
  | '-' :: number =>
    match splitAt '.' number with
    | [whole] => isNumeral whole
    | [whole, fraction] => whole.all isDigit && isNumeral fraction
    | _ => false
  | _ => false

/-- what a word before any `--` is taken for -/
def token (form : Form σ) (w : String) : Except Stop (Token σ) :=
  let (name, value) := splitValue w
  match form.spellings.lookup w, form.spellings.lookup name with
  | some flag, _ => .ok (.flag w flag none)
  | none, some flag => .ok (.flag w flag value)
  | none, none =>
    if w.toList.head? ≠ some '-' ∨ w = "-" then .ok (.plain w)
    else match form.candidates w with
      | [(_, flag, value)] => .ok (.flag w flag value)
      | [] => if isNegative w || w.toList.contains ' ' then .ok (.plain w) else .ok (.unknown w)
      | several => .error (.refused form.title (.ambiguous w (several.map (·.1))))

/-- what the words of a command line are taken for -/
def tokens (form : Form σ) : List String → Except Stop (List (Token σ))
  | [] => .ok []
  | w :: ws =>
    if w = "--" then .ok (.separator :: ws.map .plain)
    else do
      let t ← form.token w
      let ts ← form.tokens ws
      return t :: ts

/-! ## Filling in -/

/-- a form that is being filled in -/
structure Reading (σ : Type) where
  settings : σ
  /-- the names of the arguments that have been given -/
  given : List String
  leftOver : List String

/-- whether the next word is the value of the flag -/
def takesNext (flag : Flag σ) : Bool :=
  match flag.effect with
  | .value _ => true
  | _ => false

/-- a flag is refused -/
def refuse (form : Form σ) (flag : Flag σ) (reason : ArgumentFault) : Stop :=
  .refused form.title (.fault flag.name reason)

/-- the settings that a flag takes the value into -/
def setValue (form : Form σ) (flag : Flag σ) (value : Option String) (settings : σ) : Except Stop σ :=
  match flag.effect, value with
  | .help, none => .error (.help form.title)
  | .help, some word => .error (form.refuse flag (.extraValue word))
  | .switch set, none => .ok (set settings)
  | .switch _, some word => .error (form.refuse flag (.extraValue word))
  | .value _, none => .error (form.refuse flag .noValue)
  | .value read, some word => (read word settings).mapError (form.refuse flag)

/-- the reading after a flag with its value -/
def takeFlag (form : Form σ) (r : Reading σ) (flag : Flag σ) (value : Option String) : Except Stop (Reading σ) := do
  let settings ← form.setValue flag value r.settings
  return { r with settings, given := flag.name :: r.given }

/-- a flag of one letter and the flags that the letters attached to it are; one that takes a value takes those after it -/
def cluster (form : Form σ) (flag : Flag σ) : List Char → Except Stop (List (Flag σ × Option String))
  | [] => .ok [(flag, none)]
  | c :: cs =>
    if takesNext flag then .ok [(flag, some (String.ofList (c :: cs)))]
    else match form.spellings.lookup (String.ofList ['-', c]) with
      | some next => do
        let flags ← form.cluster next cs
        return (flag, none) :: flags
      | none => .error (form.refuse flag (.extraValue (String.ofList (c :: cs))))

/-- the reading after a word that begins with a flag -/
def takeFlagWord (form : Form σ) (r : Reading σ) (word : String) (flag : Flag σ) (value : Option String) :
    Except Stop (Reading σ) :=
  match word.toList.take 2 == ['-', '-'], value.map String.toList with
  | false, some (c :: cs) => do
    let flags ← form.cluster flag (c :: cs)
    flags.foldlM (fun r (flag, value) => form.takeFlag r flag value) r
  | _, _ => form.takeFlag r flag value

/-- the reading with an operand of the given words, and the words after them that nobody takes -/
def takeOperand (form : Form σ) (r : Reading σ) (words leftOver : List String) : Except Stop (Reading σ) := do
  let settings ← form.operand.read words r.settings
  return ⟨settings, form.operand.name :: r.given, r.leftOver ++ leftOver⟩

/-- the reading after a run of words that belong to no flag, and whether the words after it are taken as well -/
def takeRun (form : Form σ) (r : Reading σ) (run rest : List (Token σ)) : Except Stop (Reading σ × Bool) :=
  match r.given.contains form.operand.name, form.operand.room, Token.skipSeparator run with
  | false, .one, .plain w :: others => do
    let r ← form.takeOperand r [w] ((Token.skipSeparator others).map Token.word)
    return (r, false)
  | false, .run, .plain _ :: _ => do
    let r ← form.takeOperand r (run.filterMap Token.plain?) []
    return (r, false)
  | false, .rest, .plain _ :: _ => do
    let r ← form.takeOperand r ((run ++ rest).map Token.word) []
    return (r, true)
  | _, _, _ => .ok ({ r with leftOver := r.leftOver ++ run.map Token.word }, false)

/-- the reading after all words -/
def fill (form : Form σ) (r : Reading σ) (ts : List (Token σ)) : Except Stop (Reading σ) :=
  match ts with
  | [] => .ok r
  | .unknown w :: ts => form.fill { r with leftOver := r.leftOver ++ [w] } ts
  | .flag _ flag none :: .plain w :: ts =>
    if takesNext flag then do
      let r ← form.takeFlag r flag (some w)
      form.fill r ts
    else do
      let r ← form.takeFlag r flag none
      form.fill r (.plain w :: ts)
  | .flag word flag value :: ts => do
    let r ← form.takeFlagWord r word flag value
    form.fill r ts
  | t :: ts => do
    let run := t :: ts.takeWhile Token.isLoose
    let rest := ts.dropWhile Token.isLoose
    let (r, all) ← form.takeRun r run rest
    if all then return r else form.fill r rest
termination_by ts.length
decreasing_by
  all_goals simp only [List.length_cons]
  all_goals try omega
  exact Nat.lt_succ_of_le (List.dropWhile_sublist _).length_le

/-- the arguments that a form cannot do without -/
def requiredNames (form : Form σ) : List String :=
  form.operand.name :: (form.flags.filter (·.required)).map Flag.name

/-- the settings that a command line makes of the given ones, and the words left over -/
def read (form : Form σ) (settings : σ) (words : List String) : Except Stop (σ × List String) := do
  let ts ← form.tokens words
  let r ← form.fill ⟨settings, [], []⟩ ts
  match form.requiredNames.filter fun name => !r.given.contains name with
  | [] => return (r.settings, r.leftOver)
  | missing => .error (.refused form.title (.missing missing))

end Form

end GrammarLab.CommandLine
