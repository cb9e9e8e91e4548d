import Mediation.Json.Writer
import Mediation.Rule.Basic
import Mediation.Symbol.Span
import Mediation.Text.Affix

/-!
# Diagnostics

Findings of rules, their order and their texts. Findings are ordered by span and then by rule; the sort is
stable, so those that agree in both keep the order in which they were found.
-/

namespace Mediation

/-- A finding. `extra` is context for other tools. -/
structure Diagnostic where
  ruleId : String
  message : String
  severity : Severity
  span : Span := {}
  category : String := "Design"
  title : String := ""
  helpUri : String := ""
  checker : String := ""
  extra : List (String × Json) := []

namespace Diagnostic

/-- The finding of a rule about the given arguments. -/
def ofRule (rule : Rule) (span : Span) (arguments : List String) (checker : String)
    (extra : List (String × Json)) : Diagnostic where
  ruleId := rule.id
  message := rule.format.render arguments
  severity := rule.severity
  span := span
  category := rule.category
  title := rule.title
  helpUri := rule.helpUri
  checker := checker
  extra := extra

/-- The finding of a rule about arguments that may be too few; the error is the first slot without one. -/
def create (rule : Rule) (span : Span) (arguments : List String) (checker : String)
    (extra : List (String × Json)) : Except Nat Diagnostic :=
  match rule.format.missing? arguments with
  | some index => .error index
  | none => .ok (ofRule rule span arguments checker extra)

def withSeverity (d : Diagnostic) (severity : Severity) : Diagnostic := { d with severity }

/-! ### Order -/

/-- The order of findings: by span, then by rule. -/
def order : Diagnostic → Diagnostic → Ordering := fun a b =>
  (Span.order a.span b.span).then (compare a.ruleId b.ruleId)

/-- Whether `a` may stand before `b`. -/
def le (a b : Diagnostic) : Bool := (order a b).isLE

/-- The findings in order. -/
def sort (ds : List Diagnostic) : List Diagnostic := ds.mergeSort le

/-! ### Texts -/

/-- The fields of a finding in the output of one object per line; an empty link is left out. -/
def fields (d : Diagnostic) : List (String × Json) :=
  [("ruleId", .str d.ruleId), ("message", .str d.message), ("severity", .str d.severity.label),
    ("category", .str d.category), ("file", .str d.span.file), ("startLine", .int d.span.startLine),
    ("startColumn", .int d.span.startColumn), ("endLine", .int d.span.endLine),
    ("endColumn", .int d.span.endColumn)]
  ++ if d.helpUri = "" then [] else [("helpUri", .str d.helpUri)]

def jsonLine (d : Diagnostic) : String := (Json.obj d.fields).write

/-- A finding in the manner of compilers. -/
def compilerLine (d : Diagnostic) : String :=
  d.span.label ++ ": " ++ d.severity.label ++ ": " ++ d.message ++ " [" ++ d.ruleId ++ "]"

/-- A description of a collection of findings. -/
def describeAll (ds : List Diagnostic) : String := "<DiagnosticSink " ++ toString ds.length ++ " diagnostics>"

end Diagnostic

end Mediation
