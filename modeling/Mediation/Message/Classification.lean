import Mediation.Message.Catalog
import Mediation.Symbol.Interfaces

/-!
# Classification

The roles of a declaration are those that its interfaces give it, directly or through others. One of them
decides, whatever the order in which the interfaces are declared.
-/

namespace Mediation

/-- What the conventions are judged in: the declarations of a program and the library as it sees it. -/
structure Context where
  program : Program
  symbols : SymbolTable
  catalog : Catalog

def Context.ofProgram (p : Program) : Context := ⟨p, p.symbols, p.catalog⟩

namespace Context

/-- All roles of a declaration, without repeats. -/
def rolesOf (c : Context) (d : TypeDecl) : List Role :=
  if c.catalog.hasMarkers then ((c.symbols.interfaces d).filterMap c.catalog.markerRole?).eraseDups else []

/-- The role that decides. -/
def classify (c : Context) (d : TypeDecl) : Role :=
  let roles := c.rolesOf d
  (Role.priority.find? fun role => role ∈ roles).getD .unclassified

/-- The roles of a declaration that make it a handler. -/
def handlerRolesOf (c : Context) (d : TypeDecl) : List Role := (c.rolesOf d).filter Role.isHandler

end Context

end Mediation
