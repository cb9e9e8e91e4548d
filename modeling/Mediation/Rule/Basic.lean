import Mediation.Rule.Template

/-!
# Rules

A rule has a lasting identifier, by which configuration files refer to it, and says how its findings are
worded.
-/

namespace Mediation

/-- How serious a finding is. -/
inductive Severity where
  | error
  | warning
  | info
  | hidden
  deriving DecidableEq, Inhabited

namespace Severity

def all : List Severity := [.error, .warning, .info, .hidden]

def label : Severity → String
  | .error => "error"
  | .warning => "warning"
  | .info => "info"
  | .hidden => "hidden"

def ofLabel? (name : String) : Option Severity := all.find? fun severity => severity.label = name

end Severity

structure Rule where
  id : String
  title : String
  format : Template
  category : String := "Design"
  severity : Severity := .warning
  enabled : Bool := true
  helpUri : String := ""
  deriving DecidableEq

end Mediation
