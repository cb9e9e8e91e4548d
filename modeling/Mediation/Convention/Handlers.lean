import Mediation.Checker
import Mediation.Rule.Catalog
import Mediation.Text.Affix

/-!
# Handlers

Handlers are made by a container and should not be public. A handler of several families cannot carry the
suffix of one of them, and its name just ends in `Handler`. Handlers reach each other through the dispatcher,
not by direct calls.
-/

namespace Mediation

namespace HandlerDeclaration

/-- The end of the name of a handler of several families. -/
def commonSuffix : String := "Handler"

def checkerName : String := "handler-declaration"

/-- The names of roles in ascending order. -/
def sortedLabels (roles : List Role) : List String := (roles.map Role.label).mergeSort fun a b => a ≤ b

def inspect (c : Context) (d : TypeDecl) : List Diagnostic :=
  let families := c.handlerRolesOf d
  if !d.isConcrete || families.isEmpty then []
  else
    (if d.accessibility = .publicAccess then
      [.ofRule .publicHandler d.span [d.name] checkerName []] else [])
    ++ if 1 < families.length && !Text.endsWith d.name commonSuffix then
      [.ofRule .mixedHandlerName d.span [d.name] checkerName
        [("roles", .arr ((sortedLabels families).map .str))]] else []

def checker : Checker where
  name := checkerName
  kind := "HandlerDeclarationChecker"
  description := "Handlers should not be public; mixed handlers end with 'Handler'"
  rules := [.publicHandler, .mixedHandlerName]
  applies := Catalog.hasMarkers
  consults := fun _ => true
  subject := .declarations fun c d => .ok (inspect c d)

end HandlerDeclaration

namespace HandlerCall

def checkerName : String := "handler-call"

/-- Whether a reference means a handler: a marker interface of a handler role, or a declaration with one. -/
def isHandler (c : Context) (r : TypeRef) : Bool :=
  match c.catalog.markerRole? r with
  | some role => role.isHandler
  | none =>
    match c.symbols.resolve r with
    | some d => (c.classify d).isHandler
    | none => false

/-- The handler whose body encloses a call. -/
def enclosing? (c : Context) (call : Invocation) : Option TypeDecl := do
  let d ← c.symbols.resolve (← call.containingType)
  if (c.classify d).isHandler then some d else none

/-- The findings at a call. A handler may call itself. -/
def inspect (c : Context) (call : Invocation) : List Diagnostic :=
  if call.target.name ≠ Library.handleMethod then []
  else
    match enclosing? c call with
    | none => []
    | some caller =>
      let callee := call.target.containingType
      if callee.key = caller.key || !isHandler c callee then []
      else [.ofRule .handlerCall call.span [caller.name, callee.name] checkerName []]

def checker : Checker where
  name := checkerName
  kind := "HandlerCallChecker"
  description := "Handlers should not call other handlers directly"
  rules := [.handlerCall]
  applies := Catalog.hasMarkers
  consults := fun _ => true
  subject := .invocations fun c call => .ok (inspect c call)

end HandlerCall

end Mediation
