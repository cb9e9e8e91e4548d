import Mediation.CommandLine.Session

/-!
# The command line

Reads the files that a command line names, runs its session and writes what comes of it.
-/

open Mediation

/-- The number of a system error. Some layers report it negated. -/
def systemError (code : UInt32) : UInt32 := if code < 0x80000000 then code else 0 - code

def Mediation.Path.readFromDisk (path : Path) : IO (Except ReadFault (List UInt8)) := do
  if path.hasNul then return .error .nulInPath
  try
    return .ok (← IO.FS.readBinFile path.written).toList
  catch
    | .noFileOrDirectory .. => return .error .missing
    | .inappropriateType _ code details =>
      return .error (if systemError code = 20 then .notFolder else if systemError code = 21 then .isFolder
        else .other details)
    | .invalidArgument _ code details =>
      return .error (if systemError code = 36 then .nameTooLong else .other details)
    | .permissionDenied .. => return .error (.other "Permission denied")
    | fault => return .error (.other fault.toString)

/-- The program. Log lines show the time that has passed since the machine was started. -/
def main (argv : List String) : IO UInt32 := do
  let contents ← (CommandLine.inputs argv).mapM fun path => return (path, ← path.readFromDisk)
  let files : FileReader := fun path => (contents.lookup path).getD (.error .missing)
  let time := Log.timeOfDay ((← IO.monoMsNow) / 1000)
  let ending : Except CommandLine.Abort (CommandLine.Transcript × List UInt8) := do
    let t ← (CommandLine.session time files argv).mapError .brokenDown
    return (t, ← CommandLine.deliver .utf8 t.output)
  match ending with
  | .ok (t, written) =>
    (← IO.getStdout).write written.toByteArray
    (← IO.getStderr).putStr t.errors
    return t.exit.toUInt32
  | .error abort =>
    (← IO.getStderr).putStrLn abort.message
    return 1
