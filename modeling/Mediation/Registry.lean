import Mediation.Convention.Dispatch
import Mediation.Convention.Handlers
import Mediation.Convention.Naming
import Mediation.Convention.Registration
import Mediation.Table

/-!
# The registry of checkers

Checkers by name, in the order of registration. Whether a name is disabled is kept apart from whether it is
registered, and outlasts the checker.
-/

namespace Mediation

/-- Registered checkers and disabled names. -/
structure Registry where
  checkers : Table String Checker
  disabled : List String

namespace Registry

def empty : Registry := ⟨.empty, []⟩

def register (r : Registry) (c : Checker) : Registry := { r with checkers := r.checkers.insert c.name c }

def unregister (r : Registry) (name : String) : Registry := { r with checkers := r.checkers.erase name }

def disable (r : Registry) (name : String) : Registry := { r with disabled := r.disabled.insert name }

def enable (r : Registry) (name : String) : Registry := { r with disabled := r.disabled.filter (· ≠ name) }

/-- All checkers, in the order of registration. -/
def all (r : Registry) : List Checker := r.checkers.values

/-- The checkers whose names are not disabled. -/
def enabled (r : Registry) : List Checker :=
  (r.checkers.entries.filter fun e => e.1 ∉ r.disabled).map Prod.snd

/-- The checker of a name, disabled or not. -/
def find? (r : Registry) (name : String) : Option Checker := r.checkers.get? name

/-- The checkers that can report a rule. -/
def withRule (r : Registry) (ruleId : String) : List Checker := r.all.filter fun c => ruleId ∈ c.ruleIds

/-- The registered names in ascending order. -/
def names (r : Registry) : List String := r.checkers.keys.mergeSort fun a b => a ≤ b

def suite : List Checker :=
  [Naming.checker, Dispatch.checker, Registration.checker, HandlerDeclaration.checker, HandlerCall.checker]

def standard : Registry := suite.foldl register empty

end Registry

end Mediation
