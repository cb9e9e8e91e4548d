import Mediation.Log
import Mediation.Message.Library
import Mediation.Symbol.Lookup

/-!
# The catalog

Which definitions of the library a program declares. Each look-up is optional: a program that does not refer
to the library has an empty catalog, and no convention applies to it.
-/

namespace Mediation

/-- The definitions of the library found in a program. -/
structure Catalog where
  /-- The interfaces that give roles. -/
  markers : List Library.Marker := []
  /-- The dispatcher types. -/
  dispatchers : List DefinitionKey := []
  /-- The class with the registration method. -/
  registration : Option DefinitionKey := none
  deriving DecidableEq

namespace Catalog

def ofSymbols (symbols : SymbolTable) : Catalog where
  markers := Library.markers.filter fun m => (symbols.find? m.key).isSome
  dispatchers := Library.dispatchers.filter fun key => (symbols.find? key).isSome
  registration := (symbols.find? Library.registration).map TypeDecl.key

/-- Whether some interface gives a role. -/
def hasMarkers (c : Catalog) : Bool := !c.markers.isEmpty

/-- Whether all dispatcher types were found. -/
def hasDispatcher (c : Catalog) : Bool := c.dispatchers.length == Library.dispatchers.length

/-- The role that implementing the interface `r` gives. -/
def markerRole? (c : Catalog) (r : TypeRef) : Option Role :=
  (c.markers.find? fun m => m.key = r.key).map (·.role)

def isDispatcher (c : Catalog) (r : TypeRef) : Bool := r.key ∈ c.dispatchers

/-- Whether `r` is the class with the registration method. If the program does not declare it, its metadata
name decides. -/
def isRegistration (c : Catalog) (r : TypeRef) : Bool :=
  match c.registration with
  | some key => r.key = key
  | none => r.metadataName = Library.registration.metadataName

/-- What is logged when the catalog of a program is made. -/
def log (p : Program) : List Log.Entry :=
  let symbols := p.symbols
  let catalog := ofSymbols symbols
  let debug (message : String) : Log.Entry := ⟨.debug, "mediatr_lint.catalog", message⟩
  let absent (key : DefinitionKey) : Bool := (symbols.find? key).isNone
  (Library.markers.filter fun m => absent m.key).map (fun m =>
    debug ("marker " ++ m.key.metadataName ++ " not found in " ++ m.key.assembly))
  ++ (Library.dispatchers.filter absent).map (fun key =>
    debug ("dispatcher type " ++ key.metadataName ++ " not found"))
  ++ [debug ("resolved catalog for " ++ p.describe ++ ": " ++ toString catalog.markers.length ++ " markers, "
    ++ toString catalog.dispatchers.length ++ "/" ++ toString Library.dispatchers.length
    ++ " dispatcher types")]

end Catalog

def Program.catalog (p : Program) : Catalog := .ofSymbols p.symbols

end Mediation
