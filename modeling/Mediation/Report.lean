import Mediation.Diagnostic
import Mediation.Number.Amount
import Mediation.Table

/-!
# Reports

What a run of checkers has found, as a whole and by checker, and its three output formats.
-/

namespace Mediation

/-- The result of running checkers. -/
structure Report where
  /-- All findings, in the order in which they were emitted. -/
  emitted : List Diagnostic := []
  /-- The findings of each checker. -/
  byChecker : Table String (List Diagnostic) := .empty
  /-- Statistics by name. -/
  stats : Table String Amount := .empty
  /-- The names of the checkers that were run. -/
  checkerNames : List String := []

namespace Report

/-- The name of the statistic with the time that a checker took. -/
def elapsedKey (checker : String) : String := checker ++ "_elapsed_ms"

/-- The report after one more checker was run, with the time that it took. -/
def record (r : Report) (checker : String) (found : List Diagnostic) (elapsed : Amount) : Report where
  emitted := r.emitted ++ found
  byChecker := r.byChecker.insert checker found
  stats := r.stats.insert (elapsedKey checker) elapsed
  checkerNames := r.checkerNames ++ [checker]

/-- The findings in the order of their spans. -/
def diagnostics (r : Report) : List Diagnostic := Diagnostic.sort r.emitted

def ofSeverity (r : Report) (severity : Severity) : List Diagnostic :=
  r.diagnostics.filter fun d => d.severity = severity

def inFile (r : Report) (file : String) : List Diagnostic := r.diagnostics.filter fun d => d.span.file = file

def ofRule (r : Report) (ruleId : String) : List Diagnostic := r.diagnostics.filter fun d => d.ruleId = ruleId

def errorCount (r : Report) : Nat := (r.ofSeverity .error).length

def warningCount (r : Report) : Nat := (r.ofSeverity .warning).length

def totalCount (r : Report) : Nat := r.emitted.length

/-- The statistics after the given ones were added one after the other, up to the first sum with a fault. -/
def addStats (stats : Table String Amount) : List (String × Amount) → Table String Amount × Option Amount.Fault
  | [] => (stats, none)
  | (key, amount) :: rest =>
    match ((stats.get? key).getD (.whole 0)).add amount with
    | .ok sum => addStats (stats.insert key sum) rest
    | .error fault => (stats, some fault)

/-- The names with others after them, each kept once. -/
def addNames (names others : List String) : List String :=
  others.foldl (fun ns n => if n ∈ ns then ns else ns ++ [n]) names

/-- The fault that cuts short the merge of a report into another. -/
def mergeFault? (r other : Report) : Option Amount.Fault := (addStats r.stats other.stats.entries).2

/-- The report with everything in `other` added: findings are appended, statistics are summed, and the name
of a checker is kept once. A fault in a sum keeps what was added before it; names come last. -/
def merge (r other : Report) : Report where
  emitted := r.emitted ++ other.emitted
  byChecker := other.byChecker.entries.foldl (fun t e => t.alter e.1 (·.getD [] ++ e.2)) r.byChecker
  stats := (addStats r.stats other.stats.entries).1
  checkerNames :=
    if (r.mergeFault? other).isNone then addNames r.checkerNames other.checkerNames else r.checkerNames

/-- One JSON object per finding, on lines of their own. -/
def jsonLines (r : Report) : String := Text.join "\n" (r.diagnostics.map Diagnostic.jsonLine)

/-- One line per finding in the manner of compilers. -/
def compilerLines (r : Report) : String := Text.join "\n" (r.diagnostics.map Diagnostic.compilerLine)

/-- The line of a summary about one checker. -/
def checkerLine (r : Report) (checker : String) : Except Amount.Fault String := do
  let count := ((r.byChecker.get? checker).getD []).length
  let elapsed ← ((r.stats.get? (elapsedKey checker)).getD (.whole 0)).display
  return "  " ++ checker ++ ": " ++ toString count ++ " findings (" ++ elapsed ++ "ms)"

/-- Counts of findings, in all and by checker. -/
def summary (r : Report) : Except Amount.Fault String := do
  let lines ← r.checkerNames.mapM r.checkerLine
  return Text.join "\n"
    (("Checker run complete: " ++ toString r.totalCount ++ " diagnostics (" ++ toString r.errorCount
      ++ " errors, " ++ toString r.warningCount ++ " warnings)") :: lines)

end Report

end Mediation
