import Mediation.CommandLine.Settings
import Mediation.Configuration.Load
import Mediation.Runner
import Mediation.Snapshot.Load
import Mediation.Text.Encoding

/-!
# Sessions

What the program does on a command line, given a way to read files: it writes a report and a log, and ends
with a code that tells whether it found errors or could not do its work. There is no such code if it breaks down, or if
the output stream lacks a character of the report.
-/

namespace Mediation.CommandLine

/-- How a session ends. -/
inductive ExitCode where
  | clean
  | errors
  | failure
  deriving DecidableEq

def ExitCode.toNat : ExitCode → Nat
  | .clean => 0
  | .errors => 1
  | .failure => 2

/-- What an analysis leaves behind. -/
structure Outcome where
  exit : ExitCode
  output : String := ""
  log : List Log.Entry := []
  deriving DecidableEq

/-- A record of the session itself. -/
def logEntry (level : Log.Level) (message : String) : Log.Entry := ⟨level, "mediatr_lint", message⟩

/-! ### Loading -/

/-- What has been loaded, or why it was refused. -/
inductive Loaded (α : Type) where
  | ready (value : α) (log : List Log.Entry)
  | refused (message : String) (log : List Log.Entry)

/-- What loads the configuration and the programs of an analysis. -/
structure Loader where
  configuration : Path → Except Configuration.LoadFault Configuration
  program : Path → Except Snapshot.LoadFault Program
  /-- The records of the load of a configuration. -/
  log : Path → List Log.Entry := fun _ => []

namespace Loader

/-- Loads from files; a configuration is about the rules of the suite. -/
def ofFiles (files : FileReader) : Loader where
  configuration := Configuration.load Rule.all files
  program := Snapshot.load files
  log := Configuration.loadLog Rule.all files

@[simp] theorem program_ofFiles (files : FileReader) : (ofFiles files).program = Snapshot.load files := rfl

/-- The configuration that is asked for. -/
def loadConfiguration (l : Loader) (s : Settings) : Except Breakdown (Loaded Configuration) :=
  let source := s.config.getD ""
  if source = "" then .ok (.ready {} [])
  else
    let path := Path.ofString source
    match l.configuration path with
    | .ok configuration => .ok (.ready configuration (l.log path))
    | .error (.refused fault) => .ok (.refused fault.message (l.log path))
    | .error (.broken cause) => .error cause

/-- The programs of the given dumps, up to the first that is refused. -/
def loadPrograms (l : Loader) : List String → Except Breakdown (Loaded (List Program))
  | [] => .ok (.ready [] [])
  | dump :: rest =>
    let path := Path.ofString dump
    match l.program path with
    | .error fault =>
      match fault.breakdown? with
      | some cause => .error cause
      | none => .ok (.refused (Snapshot.refusal (some path) fault.reason) [])
    | .ok program => do
      let entry := Snapshot.loadLog path program
      match ← l.loadPrograms rest with
      | .ready programs log => .ok (.ready (program :: programs) (entry :: log))
      | .refused message log => .ok (.refused message (entry :: log))

end Loader

/-- The programs in the given files, up to the first that is refused. -/
def loadPrograms (files : FileReader) : List String → Except Breakdown (Loaded (List Program)) :=
  (Loader.ofFiles files).loadPrograms

/-! ### Analysis -/

def Format.render (format : Format) (r : Report) : Except Amount.Fault String :=
  match format with
  | .json => .ok r.jsonLines
  | .compiler => .ok r.compilerLines
  | .summary => r.summary

/-- The runner that the settings and a configuration ask for. -/
def runner (s : Settings) (c : Configuration) : Runner where
  suppressions := s.suppress.foldl Suppressions.addGlobal (c.apply .empty)
  severities := c.severities
  jobs := s.jobs.getD 1

/-- The report on the loaded programs. -/
def report (s : Settings) (c : Configuration) (programs : List Program) : Report :=
  (runner s c).runMany programs s.checkers

/-- What comes of a report. -/
def conclude (s : Settings) (c : Configuration) (programs : List Program) : Except Breakdown Outcome := do
  let r := report s c programs
  let text ← (s.output.render r).mapError .amount
  return {
    exit := if 0 < r.errorCount then .errors else .clean
    output := if text = "" then "" else text ++ "\n"
    log := (runner s c).logMany programs s.checkers
      ++ [logEntry .info (toString r.totalCount ++ " diagnostics (" ++ toString r.errorCount ++ " errors) in "
        ++ toString programs.length ++ " program(s)")] }

/-- The outcome when an input is refused: nothing is written. -/
def fail (message : String) (log : List Log.Entry) : Outcome :=
  { exit := .failure, log := log ++ [logEntry .error message] }

/-- Loads the configuration and all dumps, and analyses the dumps if none of them is refused. -/
def Loader.analyze (l : Loader) (s : Settings) : Except Breakdown Outcome := do
  match ← l.loadConfiguration s with
  | .refused message log => return fail message log
  | .ready configuration log =>
    match ← l.loadPrograms s.dumps with
    | .refused message log' => return fail message (log ++ log')
    | .ready programs log' =>
      if s.jobs.isNone then .error .noJobs
      else
        let outcome ← conclude s configuration programs
        return { outcome with log := log ++ log' ++ outcome.log }

/-- Analyses the dumps in files. -/
def analyze (files : FileReader) (s : Settings) : Except Breakdown Outcome := (Loader.ofFiles files).analyze s

/-! ### Writing -/

/-- Why an analysis ends without an exit code. -/
inductive Abort where
  | brokenDown (cause : Breakdown)
  /-- The output stream lacks a character. -/
  | unencodable (out : Text.Encoding) (fault : Text.Encoding.Fault)

def Abort.message : Abort → String
  | .brokenDown cause => cause.message
  | .unencodable out fault => out.message fault

/-- The octets of an output, which is written as a whole or not at all. -/
def deliver (out : Text.Encoding) (output : String) : Except Abort (List UInt8) :=
  (out.encode output).mapError (.unencodable out)

/-- An analysis that was carried to its end, with the octets that it has written. -/
structure Delivery where
  exit : ExitCode
  written : List UInt8
  log : List Log.Entry

/-- Analyses the dumps and writes the report to a stream. -/
def Loader.run (l : Loader) (out : Text.Encoding) (s : Settings) : Except Abort Delivery := do
  let outcome ← (l.analyze s).mapError .brokenDown
  let written ← deliver out outcome.output
  return { exit := outcome.exit, written, log := outcome.log }

/-! ### Requests -/

/-- The list of all rules, each with the checkers that report it. -/
def ruleList : String :=
  String.join (Rule.all.map fun rule =>
    "  " ++ rule.id ++ "  " ++ Text.padRight rule.severity.label 8 ++ " " ++ rule.title ++ "\n"
      ++ "  " ++ Text.padRight "" 7 ++ "  " ++ Text.padRight "" 8 ++ " checker: "
      ++ Text.join ", " ((Registry.standard.withRule rule.id).map Checker.name) ++ "\n")

/-- Does what the settings ask for. -/
def perform (files : FileReader) (s : Settings) : Except Breakdown Outcome :=
  if s.listRules then .ok { exit := .clean, output := ruleList }
  else if s.dumps = [] then .ok { exit := .clean, log := [logEntry .warning "no input files"] }
  else analyze files s

/-! ### Whole sessions -/

/-- What a session writes, and the number it ends with. -/
structure Transcript where
  exit : Nat
  output : String := ""
  errors : String := ""
  deriving DecidableEq

def programName : String := "mediatr-lint"

def version : String := "1.0.0"

/-- A short reminder of the command line. -/
def usage : String :=
  "usage: " ++ programName ++ " [dumps ...] [--checkers NAME ...] [--output json|gcc|summary] [--suppress ID ...]\n"
    ++ "       [--config FILE] [--jobs N] [--list-rules] [-v] [--version] [-h]\n"

/-- The least level of the records that are shown. -/
def threshold : (verbosity : Nat) → Log.Level
  | 0 => .warning
  | 1 => .info
  | _ => .debug

/-- What a session writes at the given time of day. -/
def transcript (time : String) (verbosity : Nat) (o : Outcome) : Transcript where
  exit := o.exit.toNat
  output := o.output
  errors := String.join ((Log.atLeast (threshold verbosity) o.log).map (Log.Entry.line time))

/-- The session of a command line at the given time of day. -/
def session (time : String) (files : FileReader) (argv : List String) : Except Breakdown Transcript :=
  match parse argv with
  | .error .help => .ok { exit := 0, output := usage }
  | .error .version => .ok { exit := 0, output := programName ++ " " ++ version ++ "\n" }
  | .error (.fault fault) => .ok { exit := 2, errors := programName ++ ": error: " ++ fault.message ++ "\n" }
  | .ok s => return transcript time s.verbosity (← perform files s)

/-- The files that the session of a command line may read. -/
def inputs (argv : List String) : List Path :=
  match parse argv with
  | .ok s => (s.config.toList ++ s.dumps).map Path.ofString
  | .error _ => []

end Mediation.CommandLine
