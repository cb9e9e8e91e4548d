import Mediation.Checker
import Mediation.Rule.Catalog
import Mediation.Text.Affix

/-!
# Names of messages and handlers

Each role asks for one of a few suffixes. Handler names are judged on declarations that can be instantiated
only, and a handler of several families is left to the rule about mixed handlers.
-/

namespace Mediation

/-- The suffixes that a role accepts, and the rule that a name without them breaks. -/
structure SuffixRule where
  suffixes : List String
  rule : Rule

/-- Whether a name carries one of the suffixes. -/
def SuffixRule.accepts (r : SuffixRule) (name : String) : Bool := r.suffixes.any fun tail => Text.endsWith name tail

/-- The suffix rule of a role. -/
def Role.suffixRule? : Role → Option SuffixRule
  | .request => some ⟨["Command", "Query"], .requestName⟩
  | .streamRequest => some ⟨["StreamQuery"], .streamRequestName⟩
  | .notification => some ⟨["Notification", "Event"], .notificationName⟩
  | .requestHandler => some ⟨["CommandHandler", "QueryHandler"], .requestHandlerName⟩
  | .streamRequestHandler => some ⟨["StreamQueryHandler"], .streamRequestHandlerName⟩
  | .notificationHandler => some ⟨["NotificationHandler", "EventHandler"], .notificationHandlerName⟩
  | .unclassified => none

namespace Naming

/-- The rule that the name of a declaration breaks, given its role. -/
def violation? (d : TypeDecl) (role : Role) : Option Rule := do
  let suffixRule ← role.suffixRule?
  if (role.isHandler && !d.isConcrete) || suffixRule.accepts d.name then none else some suffixRule.rule

/-- The finding on the name of a declaration, given its role. -/
def check? (d : TypeDecl) (role : Role) : Option Diagnostic :=
  (violation? d role).map fun rule => .ofRule rule d.span [d.name] "" []

def checkerName : String := "naming-convention"

/-- The findings on the name of a declaration. -/
def inspect (c : Context) (d : TypeDecl) : List Diagnostic :=
  let role := c.classify d
  if role.isHandler && d.isConcrete && 1 < (c.handlerRolesOf d).length then []
  else
    (violation? d role).toList.map fun rule =>
      .ofRule rule d.span [d.name] checkerName [("type", .str d.metadataName), ("role", .str role.label)]

def checker : Checker where
  name := checkerName
  kind := "NamingConventionChecker"
  description := "Message and handler type naming conventions"
  rules := [.requestName, .streamRequestName, .notificationName, .requestHandlerName,
    .streamRequestHandlerName, .notificationHandlerName]
  applies := Catalog.hasMarkers
  consults := fun _ => true
  subject := .declarations fun c d => .ok (inspect c d)

end Naming

end Mediation
