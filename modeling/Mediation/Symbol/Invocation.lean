import Mediation.Symbol.Span
import Mediation.Symbol.TypeRef

/-!
# Call sites

Invocations, each bound to the method it calls and with the way in which every argument got its value.
-/

namespace Mediation

structure Parameter where
  name : String
  type : Option TypeRef := none
  hasDefault : Bool := false
  deriving DecidableEq, Inhabited

/-- A method as it is seen from a call site. -/
structure Method where
  name : String
  containingType : TypeRef
  parameters : List Parameter := []
  typeArguments : List TypeRef := []
  isStatic : Bool := false
  deriving DecidableEq, Inhabited

/-- Whether the call names type arguments. -/
def Method.isGeneric (m : Method) : Bool := !m.typeArguments.isEmpty

/-- How an argument got its value. -/
inductive ArgumentKind where
  | explicit
  | defaultValue
  | paramsArray
  deriving DecidableEq, Inhabited

namespace ArgumentKind

def all : List ArgumentKind := [.explicit, .defaultValue, .paramsArray]

def label : ArgumentKind → String
  | .explicit => "explicit"
  | .defaultValue => "default"
  | .paramsArray => "params"

end ArgumentKind

structure Argument where
  parameter : String
  kind : ArgumentKind := .explicit
  span : Option Span := none
  deriving DecidableEq, Inhabited

/-- A call site. Without a containing type the call stands in top-level statements. -/
structure Invocation where
  target : Method
  arguments : List Argument := []
  span : Span := {}
  containingType : Option TypeRef := none
  deriving DecidableEq, Inhabited

end Mediation
