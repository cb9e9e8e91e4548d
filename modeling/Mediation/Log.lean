/-!
# Log records

What the analysis tells about its own course, as data: the outer layer decides what is shown.
-/

namespace Mediation

namespace Log

/-- How important a record is. -/
inductive Level where
  | debug
  | info
  | warning
  | error
  deriving DecidableEq, Inhabited

namespace Level

def label : Level → String
  | .debug => "DEBUG"
  | .info => "INFO"
  | .warning => "WARNING"
  | .error => "ERROR"

/-- The levels in ascending order of importance. -/
def rank : Level → Nat
  | .debug => 0
  | .info => 1
  | .warning => 2
  | .error => 3

end Level

/-- A record: its level, the part of the program it comes from, and its message. -/
structure Entry where
  level : Level
  source : String
  message : String
  deriving DecidableEq, Inhabited

/-- The records of at least the given level. -/
def atLeast (threshold : Level) (entries : List Entry) : List Entry :=
  entries.filter fun e => threshold.rank ≤ e.level.rank

/-- The time of day, given the seconds since midnight. -/
def timeOfDay (seconds : Nat) : String :=
  let two (n : Nat) : String := toString (n / 10) ++ toString (n % 10)
  two (seconds / 3600 % 24) ++ ":" ++ two (seconds / 60 % 60) ++ ":" ++ two (seconds % 60)

/-- A record as a line of the log, at the given time of day; the level takes up five characters. -/
def Entry.line (time : String) (e : Entry) : String :=
  let level := (e.level.label.toList ++ List.replicate 5 ' ').take 5
  time ++ " [" ++ String.ofList level ++ "] " ++ e.source ++ ": " ++ e.message ++ "\n"

end Log

end Mediation
