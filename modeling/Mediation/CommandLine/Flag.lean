import Mediation.Text.Affix

/-!
# Flags

The options of the command line: how they are spelled and how many values they take.
-/

namespace Mediation.CommandLine

/-- An option. -/
inductive Flag where
  | help
  | checkers
  | output
  | suppress
  | config
  | jobs
  | listRules
  | verbose
  | version
  deriving DecidableEq

/-- How many values an option takes. -/
inductive Arity where
  | none
  | one
  | many
  deriving DecidableEq

namespace Flag

def all : List Flag := [.help, .checkers, .output, .suppress, .config, .jobs, .listRules, .verbose, .version]

def spellings : Flag → List String
  | .help => ["-h", "--help"]
  | .checkers => ["--checkers"]
  | .output => ["--output"]
  | .suppress => ["--suppress"]
  | .config => ["--config"]
  | .jobs => ["--jobs"]
  | .listRules => ["--list-rules"]
  | .verbose => ["-v", "--verbose"]
  | .version => ["--version"]

def arity : Flag → Arity
  | .checkers | .suppress => .many
  | .output | .config | .jobs => .one
  | .help | .listRules | .verbose | .version => .none

/-- All spellings with their options. -/
def table : List (String × Flag) := all.flatMap fun flag => flag.spellings.map fun s => (s, flag)

/-- The option that is spelled `s`. -/
def ofSpelling? (s : String) : Option Flag := table.lookup s

/-- All spellings of an option, as they stand in messages. -/
def label (flag : Flag) : String := Text.join "/" flag.spellings

end Flag

end Mediation.CommandLine
