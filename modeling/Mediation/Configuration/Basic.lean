import Mediation.Configuration.Level
import Mediation.Log
import Mediation.Setting.Document
import Mediation.Suppressions

/-!
# Configurations

The severities and suppressions that a settings file asks for. Every section counts, whatever files its name
is meant for.
-/

namespace Mediation

/-- The severities and suppressions of rules. -/
structure Configuration where
  severities : Table String Severity := .empty
  suppressed : List String := []

/-- Why a settings file is no configuration. -/
inductive Configuration.Cause where
  | badLines (lines : List Setting.BadLine)
  | unknownSeverity (value key : String)
  | unreadable (reason : String)
  deriving DecidableEq

/-- A fault of a settings file, which may have a name. -/
structure Configuration.Fault where
  cause : Cause
  source : Option String := none
  deriving DecidableEq

namespace Configuration

/-- The wording of a fault without its place; `source` is the name of the file. -/
def Cause.message (source : String) : Cause → String
  | .badLines lines => Setting.badLinesMessage (if source = "" then "<config>" else source) lines
  | .unknownSeverity value key => "unknown severity '" ++ value ++ "' for '" ++ key ++ "'"
  | .unreadable reason => "cannot read configuration: " ++ reason

def Fault.message (f : Fault) : String :=
  let source := f.source.getD ""
  (if source = "" then "" else source ++ ": ") ++ f.cause.message source

/-- The levels after one more setting. -/
def addItem (levels : RuleLevels) (item : String × String) : Except Cause RuleLevels :=
  match LevelTarget.ofKey? item.1 with
  | none => .ok levels
  | some target =>
    match RuleLevel.ofValue? item.2 with
    | some level => .ok (levels.set target level)
    | none => .error (.unknownSeverity item.2 item.1)

/-- The levels that the settings give, later ones over earlier ones. -/
def levels (items : List (String × String)) : Except Cause RuleLevels := items.foldlM addItem {}

/-- The levels that a settings file gives. -/
def levelsOfText (text : String) : Except Cause RuleLevels :=
  match Setting.Document.read text with
  | .ok document => levels document.items
  | .error badLines => .error (.badLines badLines)

/-- Takes the level of a rule into a configuration. -/
def setLevel (c : Configuration) (ruleId : String) : RuleLevel → Configuration
  | .standard => c
  | .suppressed => { c with suppressed := c.suppressed.insert ruleId }
  | .severity severity => { c with severities := c.severities.insert ruleId severity }

/-- What the levels mean for the given rules. -/
def ofLevels (rules : List Rule) (levels : RuleLevels) : Configuration :=
  rules.foldl (fun c rule => c.setLevel rule.id (levels.levelOf rule)) {}

/-- The configuration that a settings file gives for the given rules. -/
def parse (rules : List Rule) (source : Option String) (text : String) : Except Fault Configuration :=
  match levelsOfText text with
  | .ok levels => .ok (ofLevels rules levels)
  | .error cause => .error ⟨cause, source⟩

/-- The suppressions with those of a configuration. -/
def apply (c : Configuration) (s : Suppressions) : Suppressions := c.suppressed.foldl Suppressions.addGlobal s

/-- A record of the part of the program that reads configurations. -/
def logEntry (level : Log.Level) (message : String) : Log.Entry := ⟨level, "mediatr_lint.config", message⟩

/-- What is logged about settings of rules that do not exist. -/
def log (rules : List Rule) (text : String) : List Log.Entry :=
  match levelsOfText text with
  | .error _ => []
  | .ok levels =>
    let unknown := levels.rules.keys.filter fun id => id ∉ rules.map Rule.id
    (unknown.mergeSort fun a b => a ≤ b).map fun id =>
      logEntry .debug ("configuration for unknown rule " ++ id ++ " ignored")

end Configuration

end Mediation
