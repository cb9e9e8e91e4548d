import Mediation.Checker
import Mediation.Rule.Catalog
import Mediation.Text.Affix

/-!
# Calls of the dispatcher

Calls of the dispatch methods should name their type arguments, pass a cancellation token and go to the
methods with the asynchronous suffix. A call counts only if the program declares all dispatcher types.
-/

namespace Mediation

/-- What was found at a call of the dispatcher. -/
structure DispatchFinding where
  span : Span
  method : String
  missingAsync : Bool
  notGeneric : Bool
  missingToken : Bool
  deriving DecidableEq

namespace DispatchFinding

def rules (f : DispatchFinding) : List Rule :=
  (if f.missingAsync then [Rule.asyncDispatch] else []) ++ (if f.notGeneric then [Rule.genericDispatch] else [])
    ++ if f.missingToken then [Rule.cancellationToken] else []

def isViolation (f : DispatchFinding) : Bool := !f.rules.isEmpty

end DispatchFinding

namespace Dispatch

/-- A method name without the asynchronous suffix, unless it is nothing but the suffix. -/
def baseName (name : String) : String :=
  if Text.endsWith name Library.asyncSuffix && name ≠ Library.asyncSuffix then
    Text.dropLast name Library.asyncSuffix.length
  else name

/-- Whether a call goes to a dispatch method with two parameters. -/
def isDispatch (catalog : Catalog) (call : Invocation) : Bool :=
  catalog.hasDispatcher && call.target.parameters.length == 2
    && catalog.isDispatcher call.target.containingType
    && baseName call.target.name ∈ Library.dispatchMethods

/-- Whether the second of two arguments is a default value. -/
def usesDefaultToken (call : Invocation) : Bool :=
  match call.arguments with
  | [_, token] => token.kind = .defaultValue
  | _ => false

/-- What is found at a call, if it is one of the dispatcher. -/
def inspect? (catalog : Catalog) (call : Invocation) : Option DispatchFinding :=
  if isDispatch catalog call then
    some {
      span := call.span
      method := call.target.name
      missingAsync :=
        baseName call.target.name ∈ Library.asyncMethods && !Text.endsWith call.target.name Library.asyncSuffix
      notGeneric := !call.target.isGeneric
      missingToken := usesDefaultToken call }
  else none

def checkerName : String := "parameter-usage"

def inspect (c : Context) (call : Invocation) : List Diagnostic :=
  match inspect? c.catalog call with
  | none => []
  | some finding =>
    finding.rules.map fun rule =>
      .ofRule rule finding.span [] checkerName [("method", .str finding.method)]

def checker : Checker where
  name := checkerName
  kind := "ParameterUsageChecker"
  description := "Dispatcher call sites: generic overload, cancellation, Async suffix"
  rules := [.genericDispatch, .cancellationToken, .asyncDispatch]
  applies := Catalog.hasDispatcher
  consults := fun _ => true
  subject := .invocations fun c call => .ok (inspect c call)

end Dispatch

end Mediation
