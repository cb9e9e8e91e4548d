/-!
# Identity of types

A type is identified by its metadata name and by the assembly that declares it. The metadata name is the
qualified name, followed by a backtick and the number of type parameters of a generic type.
-/

namespace Mediation

/-- The name in its namespace; the global namespace leaves no trace. -/
def qualifiedName (scope name : String) : String :=
  if scope = "" then name else scope ++ "." ++ name

/-- The metadata name; an arity of zero leaves no trace. -/
def metadataName (scope name : String) (arity : Int) : String :=
  if arity = 0 then qualifiedName scope name else qualifiedName scope name ++ "`" ++ toString arity

/-- The identity of a type definition. -/
structure DefinitionKey where
  metadataName : String
  assembly : String
  deriving DecidableEq, Inhabited

end Mediation
