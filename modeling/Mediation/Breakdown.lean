import Mediation.File.Tree
import Mediation.Json.Integer
import Mediation.Number.Amount
import Mediation.Text.Utf8

/-!
# Breakdowns

What ends an analysis outright. An input that is refused is reported and leads to an exit code; a breakdown is no
refusal and has no exit code of its own.
-/

namespace Mediation

/-- What ends an analysis without a refusal. -/
inductive Breakdown where
  /-- A whole number is asked for and an infinite one is given. -/
  | infiniteNumber
  /-- The path of a file cannot be handed to the system. -/
  | nulInPath
  /-- The octets of a settings file are no text. -/
  | settingsNotText (fault : Text.Utf8.Fault)
  /-- No number of jobs is left after the command line was read. -/
  | noJobs
  /-- A statistic has no text. -/
  | amount (fault : Amount.Fault)
  deriving DecidableEq

def Breakdown.message : Breakdown → String
  | .infiniteNumber => Json.IntegerFault.message .infinite
  | .nulInPath => ReadFault.message .nulInPath
  | .settingsNotText fault => fault.message
  | .noJobs => "'>' not supported between instances of 'list' and 'int'"
  | .amount fault => fault.message

end Mediation
