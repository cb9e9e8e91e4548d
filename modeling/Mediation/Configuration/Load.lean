import Mediation.Breakdown
import Mediation.Configuration.Basic
import Mediation.Text.Lines

/-!
# Configurations from files

A settings file is read and decoded as text. Octets that are no text, and a path that is none, are not faults of
the settings: they end the analysis.
-/

namespace Mediation.Configuration

/-- Why no configuration comes from a file. -/
inductive LoadFault where
  | refused (fault : Fault)
  | broken (cause : Breakdown)

def loadText (files : FileReader) (path : Path) : Except LoadFault String :=
  match files path with
  | .error .nulInPath => .error (.broken .nulInPath)
  | .error fault => .error (.refused ⟨.unreadable fault.message, some path.written⟩)
  | .ok octets =>
    match Text.Utf8.decode octets with
    | .ok text => .ok (String.ofList (Text.unifyBreaks text))
    | .error fault => .error (.broken (.settingsNotText fault))

def load (rules : List Rule) (files : FileReader) (path : Path) : Except LoadFault Configuration := do
  (parse rules (some path.written) (← loadText files path)).mapError .refused

def loadLog (rules : List Rule) (files : FileReader) (path : Path) : List Log.Entry :=
  match loadText files path with
  | .error _ => []
  | .ok text => logEntry .info ("loading rule configuration from " ++ path.written) :: log rules text

end Mediation.Configuration
