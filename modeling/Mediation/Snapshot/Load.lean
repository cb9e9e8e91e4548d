import Mediation.File.Tree
import Mediation.Json.Reader
import Mediation.Log
import Mediation.Snapshot.Decode
import Mediation.Text.Lines
import Mediation.Text.Utf8

/-!
# Snapshots from files

A dump file is read, decoded as text, read as JSON and decoded as a program; each step may refuse it.
-/

namespace Mediation.Snapshot

/-- Why a dump file is refused. -/
inductive LoadFault where
  | unreadable (fault : ReadFault)
  | notText (fault : Text.Utf8.Fault)
  | notJson (fault : Json.Fault)
  | notProgram (fault : Fault)

namespace LoadFault

def reason : LoadFault → String
  | .unreadable fault => "cannot read dump: " ++ fault.message
  | .notText fault => "invalid UTF-8: " ++ fault.cause.message
  | .notJson fault => "invalid JSON at line " ++ toString fault.line ++ ": " ++ fault.cause.message
  | .notProgram fault => fault.reason

/-- How the fault ends the analysis, if it does not refuse the file. -/
def breakdown? : LoadFault → Option Breakdown
  | .unreadable .nulInPath => some .nulInPath
  | .notProgram fault => fault.breakdown?
  | _ => none

end LoadFault

/-- The program in the content of a file; `defaultName` is the name of a program without one. -/
def ofOctets (defaultName : String) (octets : List UInt8) : Except LoadFault Program := do
  let text ← (Text.Utf8.decode octets).mapError .notText
  let value ← (Json.read (Text.unifyBreaks text)).mapError .notJson
  (program defaultName value).mapError .notProgram

/-- The program in a file. A program without a name is named for the file. -/
def load (files : FileReader) (path : Path) : Except LoadFault Program := do
  ofOctets path.stem (← (files path).mapError .unreadable)

/-- The wording of a refusal: the reason, after the file if there is one. -/
def refusal (path : Option Path) (reason : String) : String :=
  match path with
  | some path => path.written ++ ": " ++ reason
  | none => reason

/-- What is logged when a program was loaded. -/
def loadLog (path : Path) (program : Program) : Log.Entry :=
  ⟨.debug, "mediatr_lint.loader", "loaded " ++ program.describe ++ " from " ++ path.written⟩

end Mediation.Snapshot
