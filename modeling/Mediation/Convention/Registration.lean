import Mediation.Checker
import Mediation.Rule.Catalog

/-!
# Registration

The registration method of the library itself is not to be called, whatever its arguments.
-/

namespace Mediation.Registration

/-- Whether a call goes to the registration method of the library. -/
def isForbidden (catalog : Catalog) (call : Invocation) : Bool :=
  call.target.name = Library.registrationMethod && catalog.isRegistration call.target.containingType

/-- The finding at a call, if it is forbidden. -/
def check? (catalog : Catalog) (call : Invocation) : Option Diagnostic :=
  if isForbidden catalog call then some (.ofRule .registrationCall call.span [] "" []) else none

def checkerName : String := "service-registration"

def inspect (c : Context) (call : Invocation) : List Diagnostic :=
  if isForbidden c.catalog call then
    [.ofRule .registrationCall call.span [] checkerName [("method", .str call.target.name)]]
  else []

/-- The checker of registration calls. It applies to every program, and consults the catalog at the first
call. -/
def checker : Checker where
  name := checkerName
  kind := "ServiceRegistrationChecker"
  description := "Use AddMediator instead of AddMediatR"
  rules := [.registrationCall]
  applies := fun _ => true
  consults := fun p => !p.invocations.isEmpty
  subject := .invocations fun c call => .ok (inspect c call)

end Mediation.Registration
