import Mediation.Registry
import Mediation.Report
import Mediation.Suppressions

/-!
# Running checkers

A runner takes checkers from a registry, applies severities and suppressions to what they find, and collects
it. A checker that fails yields one hidden finding about its failure and nothing else, and the others go on.
-/

namespace Mediation

/-- Where checkers come from, and what is done with their findings. -/
structure Runner where
  registry : Registry := .standard
  suppressions : Suppressions := .empty
  severities : Table String Severity := .empty
  /-- The number of workers asked for. -/
  jobs : Int := 1

namespace Runner

/-- The number of workers: at least one. -/
def workers (r : Runner) : Int := max 1 r.jobs

/-- The identifier of findings about failures of checkers. -/
def failureId : String := "internalError"

/-- The finding about a checker that failed. -/
def failure (c : Checker) (cause : String) : Diagnostic where
  ruleId := failureId
  message := "Checker '" ++ c.name ++ "' failed: " ++ cause
  severity := .hidden
  checker := c.name

/-- The checkers to run: those that are named, as far as they are known, or else all that are enabled. -/
def select (r : Runner) : Option (List String) → List Checker
  | none => r.registry.enabled
  | some names => names.filterMap r.registry.find?

/-- The suppressions that hold in a program. -/
def suppressionsIn (r : Runner) (p : Program) : Suppressions :=
  (Suppressions.empty.merge r.suppressions).addMarks p.suppressions

/-- A finding with the severity that is configured for its rule. -/
def configure (r : Runner) (d : Diagnostic) : Diagnostic :=
  match r.severities.get? d.ruleId with
  | some severity => d.withSeverity severity
  | none => d

/-- What a checker contributes to the report on a program. -/
def outcome (r : Runner) (context : Context) (c : Checker) : List Diagnostic :=
  match c.findings r.workers context with
  | .ok found => (r.suppressionsIn context.program).filter ((Diagnostic.sort found).map r.configure)
  | .error cause => [failure c cause]

/-- The report on a program, given how long each checker took. -/
def runTimed (r : Runner) (elapsed : String → Amount) (p : Program) (names : Option (List String)) : Report :=
  let context := Context.ofProgram p
  (r.select names).foldl (fun report c => report.record c.name (r.outcome context c) (elapsed c.name)) {}

/-- The report on several programs, given how long each checker took in each of them. -/
def runManyTimed (r : Runner) (programs : List (Program × (String → Amount))) (names : Option (List String)) :
    Report :=
  programs.foldl (fun report timed => report.merge (r.runTimed timed.2 timed.1 names)) {}

/-- The times by a clock that stands still. -/
def noTime : String → Amount := fun _ => .float (.zero false)

/-- The report on a program. Time is not measured. -/
def run (r : Runner) (p : Program) (names : Option (List String)) : Report := r.runTimed noTime p names

def runMany (r : Runner) (programs : List Program) (names : Option (List String)) : Report :=
  r.runManyTimed (programs.map fun p => (p, noTime)) names

/-! ### The log of a run -/

private def runLog (level : Log.Level) (message : String) : Log.Entry := ⟨level, "mediatr_lint.runner", message⟩

def unknownLog (r : Runner) (names : Option (List String)) : List Log.Entry :=
  ((names.getD []).filter fun name => (r.registry.find? name).isNone).map fun name =>
    runLog .warning ("unknown checker '" ++ name ++ "' ignored")

def checkerLog (r : Runner) (context : Context) (c : Checker) : List Log.Entry :=
  (if c.isIdle context then [runLog .debug (c.name ++ " disabled for " ++ context.program.describe)] else [])
  ++ match c.findings r.workers context with
    | .ok _ => []
    | .error _ => [runLog .error ("checker '" ++ c.name ++ "' failed on " ++ context.program.describe)]

/-- What is logged about several checkers. The catalog is made when the first of them consults it. -/
def checkersLog (r : Runner) (context : Context) : (made : Bool) → List Checker → List Log.Entry
  | _, [] => []
  | made, c :: rest =>
    let consults := c.consults context.program
    (if consults && !made then Catalog.log context.program else []) ++ r.checkerLog context c
      ++ r.checkersLog context (made || consults) rest

def log (r : Runner) (p : Program) (names : Option (List String)) : List Log.Entry :=
  runLog .info ("analyzing " ++ p.describe ++ " (" ++ toString p.types.length ++ " types, "
    ++ toString p.invocations.length ++ " invocations)")
  :: r.unknownLog names ++ r.checkersLog (.ofProgram p) false (r.select names)

def logMany (r : Runner) (programs : List Program) (names : Option (List String)) : List Log.Entry :=
  programs.flatMap fun p => r.log p names

end Runner

end Mediation
