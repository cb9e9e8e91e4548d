/-!
# Source spans

Ranges of text in source files. Lines and columns count from one, and zero stands for an unknown place.
-/

namespace Mediation

/-- A range in a source file. -/
structure Span where
  file : String := ""
  startLine : Int := 0
  startColumn : Int := 0
  endLine : Int := 0
  endColumn : Int := 0
  deriving DecidableEq, Inhabited

namespace Span

/-- The text of a span; an unknown column is left out. -/
def label (s : Span) : String :=
  if s.startColumn = 0 then s.file ++ ":" ++ toString s.startLine
  else s.file ++ ":" ++ toString s.startLine ++ ":" ++ toString s.startColumn

/-- The order of spans: by file, then by start, then by end. -/
def order : Span → Span → Ordering :=
  compareLex (compareOn file) <| compareLex (compareOn startLine) <| compareLex (compareOn startColumn) <|
    compareLex (compareOn endLine) (compareOn endColumn)

end Span

end Mediation
