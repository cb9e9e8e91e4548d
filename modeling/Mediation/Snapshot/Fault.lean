import Mediation.Breakdown

/-!
# Faults of a dump

Why a JSON value is no snapshot of a program. A fault names the place where it was found.
-/

namespace Mediation.Snapshot

/-- Why a part of a dump is refused. -/
inductive Fault where
  | missing (place key : String)
  | notText (place kind : String)
  | notObject (place kind : String)
  | notList (place key : String)
  | unknownChoice (place found : String) (choices : List String)
  | number (fault : Json.IntegerFault)
  deriving DecidableEq

namespace Fault

def message : Fault → String
  | .missing place key => place ++ ": missing '" ++ key ++ "'"
  | .notText place kind => place ++ ": expected a string, got " ++ kind
  | .notObject place kind => place ++ ": expected an object, got " ++ kind
  | .notList place key => place ++ ": '" ++ key ++ "' must be a list"
  | .unknownChoice place found choices =>
    place ++ ": invalid value " ++ found ++ " (expected one of " ++ Text.join ", " choices ++ ")"
  | .number fault => fault.message

/-- The reason for which a whole dump is refused. -/
def reason : Fault → String
  | .number fault => "malformed dump: " ++ fault.message
  | fault => fault.message

/-- An infinite number is not reported as a refusal of the dump: it ends the analysis. -/
def breakdown? : Fault → Option Breakdown
  | .number .infinite => some .infiniteNumber
  | _ => none

end Fault

end Mediation.Snapshot
