import Mediation.CommandLine.Word
import Mediation.Number.Numeral
import Mediation.Text.Quoted

/-!
# Settings of a command line

An option takes the plain words that follow it, as many as it needs. The first row of plain words that no
option takes are the dumps, and any other such row is not recognised. The last of repeated options counts.
-/

namespace Mediation.CommandLine

/-- The format of the report. -/
inductive Format where
  | json
  | compiler
  | summary
  deriving DecidableEq

namespace Format

def all : List Format := [.json, .compiler, .summary]

def label : Format → String
  | .json => "json"
  | .compiler => "gcc"
  | .summary => "summary"

def ofLabel? (name : String) : Option Format := all.find? fun format => format.label = name

end Format

/-- What a command line asks for. -/
structure Settings where
  dumps : List String := []
  /-- The checkers to run; all that are enabled if nothing is said. -/
  checkers : Option (List String) := none
  output : Format := .json
  suppress : List String := []
  config : Option String := none
  /-- The number of workers; absent if its only value was a divider. -/
  jobs : Option Int := some 1
  listRules : Bool := false
  verbosity : Nat := 0
  deriving DecidableEq

/-- What is wrong with the value of an option. -/
inductive Problem where
  | expectedOne
  | ignoredValue (text : String)
  | notInteger (text : String)
  | notChoice (text : String)
  deriving DecidableEq

/-- Why a command line is refused. -/
inductive UsageFault where
  | ambiguous (a : Ambiguity)
  | argument (flag : Flag) (problem : Problem)
  | unrecognized (words : List String)
  deriving DecidableEq

def Problem.message : Problem → String
  | .expectedOne => "expected one argument"
  | .ignoredValue text => "ignored explicit argument " ++ Text.quoted text
  | .notInteger text => "invalid int value: " ++ Text.quoted text
  | .notChoice text =>
    "invalid choice: " ++ Text.quoted text ++ " (choose from "
      ++ Text.join ", " (Format.all.map fun format => Text.quoted format.label) ++ ")"

def UsageFault.message : UsageFault → String
  | .ambiguous a => "ambiguous option: " ++ a.word ++ " could match " ++ Text.join ", " a.spellings
  | .argument flag problem => "argument " ++ flag.label ++ ": " ++ problem.message
  | .unrecognized words => "unrecognized arguments: " ++ Text.join " " words

/-- What ends the reading of a command line before its end. -/
inductive Interruption where
  | help
  | version
  | fault (f : UsageFault)
  deriving DecidableEq

/-- Refuses the value of an option. -/
def refuse {α : Type} (flag : Flag) (problem : Problem) : Except Interruption α :=
  .error (.fault (.argument flag problem))

/-- The settings after an option with its values. A value that was only a divider is left out by then, and
without one the report is a summary. -/
def Settings.set (s : Settings) (flag : Flag) (values : List String) : Except Interruption Settings :=
  match flag with
  | .help => .error .help
  | .version => .error .version
  | .verbose => .ok { s with verbosity := s.verbosity + 1 }
  | .listRules => .ok { s with listRules := true }
  | .checkers => .ok { s with checkers := some values }
  | .suppress => .ok { s with suppress := values }
  | .config => .ok { s with config := values.head? }
  | .output =>
    match values.head? with
    | none => .ok { s with output := .summary }
    | some text =>
      match Format.ofLabel? text with
      | some format => .ok { s with output := format }
      | none => refuse flag (.notChoice text)
  | .jobs =>
    match values.head? with
    | none => .ok { s with jobs := none }
    | some text =>
      match Numeral.parse? text with
      | some jobs => .ok { s with jobs := some jobs }
      | none => refuse flag (.notInteger text)

/-! ### Groups of words -/

/-- An option and the plain words after it. -/
structure Group where
  option : Occurrence
  run : List String
  deriving DecidableEq

/-- The plain words before the first option, and each option with the plain words after it. -/
def groups : List Word → List String × List Group
  | [] => ([], [])
  | .plain text :: rest => (text :: (groups rest).1, (groups rest).2)
  | .option o :: rest => ([], ⟨o, (groups rest).1⟩ :: (groups rest).2)

/-- What the words read so far have set. -/
structure Progress where
  settings : Settings := {}
  dumps : Option (List String) := none
  unrecognized : List String := []

namespace Progress

/-- Takes plain words that no option takes: they are the dumps if there are none yet. -/
def place (p : Progress) (run : List String) : Progress :=
  if run = [] then p
  else
    match p.dumps with
    | none => { p with dumps := some (run.erase divider) }
    | some _ => { p with unrecognized := p.unrecognized ++ run }

def set (p : Progress) (flag : Flag) (values : List String) : Except Interruption Progress :=
  return { p with settings := ← p.settings.set flag values }

/-- The options in a row of letters after `flag`, each of which is spelled by one letter. -/
def cluster (flag : Flag) : List Char → Except Interruption (List Flag)
  | [] => .ok [flag]
  | c :: cs =>
    match Flag.ofSpelling? (String.ofList ['-', c]) with
    | some next => return flag :: (← cluster next cs)
    | none => refuse flag (.ignoredValue (String.ofList (c :: cs)))

/-- Takes an option with text attached to it: more options, if it has a single dash and takes no value. -/
def takeAttached (p : Progress) (flag : Flag) (short : Bool) (text : String) : Except Interruption Progress :=
  match flag.arity with
  | .none =>
    if short && text ≠ "" then do (← cluster flag text.toList).foldlM (fun p flag => p.set flag []) p
    else refuse flag (.ignoredValue text)
  | .one | .many => p.set flag ([text].erase divider)

/-- Takes an option with as many of the words after it as it needs. -/
def takeFrom (p : Progress) (flag : Flag) (run : List String) : Except Interruption Progress :=
  match flag.arity with
  | .none => return (← p.set flag []).place run
  | .one =>
    match run with
    | [] => refuse flag .expectedOne
    | text :: rest =>
      if text = divider then refuse flag .expectedOne else return (← p.set flag [text]).place rest
  | .many =>
    let values := run.takeWhile (· ≠ divider)
    return (← p.set flag values).place (run.drop values.length)

/-- Takes a group. -/
def step (p : Progress) (g : Group) : Except Interruption Progress :=
  match g.option with
  | .unknown text => .ok ({ p with unrecognized := p.unrecognized ++ [text] }.place g.run)
  | .known flag short (some text) => return (← p.takeAttached flag short text).place g.run
  | .known flag _ none => p.takeFrom flag g.run

/-- The settings when all words are read. -/
def finish (p : Progress) : Except Interruption Settings :=
  if p.unrecognized = [] then .ok { p.settings with dumps := p.dumps.getD [] }
  else .error (.fault (.unrecognized p.unrecognized))

end Progress

/-- The settings that a command line asks for. -/
def parse (argv : List String) : Except Interruption Settings :=
  match words argv with
  | .error a => .error (.fault (.ambiguous a))
  | .ok ws => do ((← (groups ws).2.foldlM Progress.step (Progress.place {} (groups ws).1))).finish

end Mediation.CommandLine
