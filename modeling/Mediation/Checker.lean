import Mediation.Diagnostic
import Mediation.Message.Classification

/-!
# Checkers

A checker prepares for a program, looks at its declarations or at its calls, one by one, and correlates what it
has found there. It may find that it does not apply to a program at all, and it may fail at each of these steps.
Several workers may share the items, and their results are taken up in the order of the items.
-/

namespace Mediation

/-- What a checker does with one item: it returns findings, or fails with a message. -/
abbrev Inspection (α : Type) := Context → α → Except String (List Diagnostic)

/-- The items that a checker looks at. -/
inductive Subject where
  | declarations (inspect : Inspection TypeDecl)
  | invocations (inspect : Inspection Invocation)

structure Checker where
  name : String
  /-- The name of the kind of checker. -/
  kind : String
  description : String
  rules : List Rule
  /-- Whether the checker applies to a program with the given catalog. -/
  applies : Catalog → Bool
  /-- Whether the checker consults the catalog of a program. -/
  consults : Program → Bool
  subject : Subject
  /-- What comes before all else, which is nothing for most checkers. -/
  prepare : Context → Except String Unit := fun _ => .ok ()
  /-- What the checker makes of the findings on all items; most checkers leave them as they are. -/
  correlate : Context → List Diagnostic → Except String (List Diagnostic) := fun _ found => .ok found

namespace Checker

def ruleIds (c : Checker) : List String := c.rules.map Rule.id

def label (c : Checker) : String := "<" ++ c.kind ++ " '" ++ c.name ++ "'>"

/-- The findings on all items, in the order of the items; the first failure ends the inspection. -/
def inspectAll {α : Type} (inspect : α → Except String (List Diagnostic)) : List α → Except String (List Diagnostic)
  | [] => .ok []
  | item :: rest => return (← inspect item) ++ (← inspectAll inspect rest)

/-- The findings in the results of all items, unless one of them is a failure; the first one counts. -/
def gather : List (Except String (List Diagnostic)) → Except String (List Diagnostic)
  | [] => .ok []
  | .ok found :: rest => return found ++ (← gather rest)
  | .error cause :: _ => .error cause

/-- The findings on all items with a number of workers. Several workers inspect every item, also after a
failure; a single one stops at it. -/
def inspectWith {α : Type} (workers : Int) (inspect : α → Except String (List Diagnostic)) (items : List α) :
    Except String (List Diagnostic) :=
  if 1 < workers then gather (items.map inspect) else inspectAll inspect items

/-- The findings of a checker in a program, whether it applies or not. -/
def visit (c : Checker) (workers : Int) (context : Context) : Except String (List Diagnostic) :=
  match c.subject with
  | .declarations inspect => inspectWith workers (inspect context) context.program.sourceTypes
  | .invocations inspect => inspectWith workers (inspect context) context.program.invocations

/-- What a checker finds on the items of a program; nothing if it does not apply. -/
def evidence (c : Checker) (workers : Int) (context : Context) : Except String (List Diagnostic) :=
  if c.applies context.catalog then c.visit workers context else .ok []

/-- The findings of a checker in a program. -/
def findings (c : Checker) (workers : Int) (context : Context) : Except String (List Diagnostic) := do
  c.prepare context
  c.correlate context (← c.evidence workers context)

/-- Whether a checker has prepared for a program to find that it does not apply. -/
def isIdle (c : Checker) (context : Context) : Bool := (c.prepare context).toBool && !c.applies context.catalog

end Checker

end Mediation
