import Mediation.Symbol.Invocation
import Mediation.Symbol.TypeDecl

/-!
# Programs

The snapshot of one compilation: the types it can see, the calls it makes and the suppressions written in
its source.
-/

namespace Mediation

/-- A suppression written in source. Without a file it holds everywhere, and on line zero for a whole file. -/
structure SuppressionMark where
  ruleId : String
  file : String := ""
  line : Int := 0
  deriving DecidableEq, Inhabited

/-- The snapshot of a compilation. -/
structure Program where
  name : String := ""
  types : List TypeDecl := []
  invocations : List Invocation := []
  suppressions : List SuppressionMark := []
  deriving DecidableEq, Inhabited

namespace Program

def describe (p : Program) : String :=
  "<Program '" ++ p.name ++ "' types=" ++ toString p.types.length ++ " invocations="
    ++ toString p.invocations.length ++ ">"

/-- The declarations that come from source, on which rules report. -/
def sourceTypes (p : Program) : List TypeDecl := p.types.filter (·.inSource)

end Program

end Mediation
