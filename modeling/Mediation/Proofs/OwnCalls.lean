import Mathlib.Data.List.Basic
import Mediation.Convention.Handlers
import Mediation.Proofs.ReferenceIdentity

/-!
# Handlers that call themselves

The handler around a call is found by resolving a reference, but the handler that is called is told from it by the
identity in a reference. The two agree for every reference that names the assembly of what it means. A reference may
leave out the assembly and still resolve, and then a handler that calls itself is taken for one that calls another.
-/

namespace Mediation

/-- A reference that leaves out the assembly of a declaration. -/
def TypeRef.OmitsAssemblyOf (r : TypeRef) (d : TypeDecl) : Prop := r.assembly = "" ∧ d.assembly ≠ ""

namespace SymbolTable

variable {decls : List TypeDecl} {r : TypeRef} {d : TypeDecl}

/-- A reference has the identity of what it resolves to, unless it leaves out the assembly. -/
theorem key_eq_iff_of_resolve (h : (ofDecls decls).resolve r = some d) :
    r.key = d.key ↔ ¬ r.OmitsAssemblyOf d := by
  constructor
  · rintro hkey ⟨hassembly, hne⟩
    apply hne
    rw [← hassembly]
    exact (congrArg DefinitionKey.assembly hkey).symm
  · intro homits
    rcases key_eq_or_of_resolve h with hkey | hassembly
    · exact hkey
    · have hd : d.assembly = "" := by
        by_contra hne
        exact homits ⟨hassembly, hne⟩
      rw [TypeRef.key, TypeDecl.key, metadataName_of_resolve h, hassembly, hd]

end SymbolTable

namespace HandlerCall

variable {p : Program} {call : Invocation} {outer : TypeRef} {d : TypeDecl}

/-- Whether a call is one of the method of handlers from the body of a handler. -/
def HandlesIn (p : Program) (call : Invocation) (d : TypeDecl) : Prop :=
  call.target.name = Library.handleMethod ∧ ((Context.ofProgram p).classify d).isHandler = true

theorem enclosing?_eq (houter : call.containingType = some outer) (hcaller : p.resolve outer = some d) :
    enclosing? (Context.ofProgram p) call
      = if ((Context.ofProgram p).classify d).isHandler = true then some d else none := by
  have hresolve : p.symbols.resolve outer = some d := hcaller
  simp [enclosing?, houter, hresolve]

/-- Without an assembly a reference is no marker, so what it resolves to decides. -/
theorem isHandler_of_assembly_eq_empty {r : TypeRef} (hresolve : p.resolve r = some d) (hassembly : r.assembly = "") :
    isHandler (Context.ofProgram p) r = ((Context.ofProgram p).classify d).isHandler := by
  have hmarker : (Context.ofProgram p).catalog.markerRole? r = none :=
    p.markerRole?_eq_none_of_assembly_eq_empty hassembly
  have hsymbols : (Context.ofProgram p).symbols.resolve r = some d := hresolve
  simp only [isHandler, hmarker, hsymbols]

theorem inspect_eq_nil_of_not_handlesIn (houter : call.containingType = some outer)
    (hcaller : p.resolve outer = some d) (hhandles : ¬ HandlesIn p call d) :
    inspect (Context.ofProgram p) call = [] := by
  rw [inspect]
  split
  · rfl
  · rename_i hname
    have hrole : ¬ ((Context.ofProgram p).classify d).isHandler = true :=
      fun hrole => hhandles ⟨not_not.mp hname, hrole⟩
    rw [enclosing?_eq houter hcaller, if_neg hrole]

theorem inspect_of_handlesIn (houter : call.containingType = some outer) (hcaller : p.resolve outer = some d)
    (hhandles : HandlesIn p call d) :
    inspect (Context.ofProgram p) call
      = if call.target.containingType.key = d.key || !isHandler (Context.ofProgram p) call.target.containingType then []
        else [.ofRule .handlerCall call.span [d.name, call.target.containingType.name] checkerName []] := by
  rw [inspect, if_neg (not_not.mpr hhandles.1), enclosing?_eq houter hcaller, if_pos hhandles.2]

/-- A handler that calls its own method is not reported, whatever references are used, unless the reference to the
called type leaves out the assembly. Exactly then it is reported, once and as a call of another handler. -/
theorem own_call_unreported_iff (houter : call.containingType = some outer) (hcaller : p.resolve outer = some d)
    (hcallee : p.resolve call.target.containingType = some d) :
    (inspect (Context.ofProgram p) call = []
      ↔ ¬ (call.target.containingType.OmitsAssemblyOf d ∧ HandlesIn p call d))
      ∧ (call.target.containingType.OmitsAssemblyOf d → HandlesIn p call d →
        inspect (Context.ofProgram p) call
          = [.ofRule .handlerCall call.span [d.name, call.target.containingType.name] checkerName []]) := by
  have hkey := SymbolTable.key_eq_iff_of_resolve hcallee
  have hreported : call.target.containingType.OmitsAssemblyOf d → HandlesIn p call d →
      inspect (Context.ofProgram p) call
        = [.ofRule .handlerCall call.span [d.name, call.target.containingType.name] checkerName []] := by
    intro homits hhandles
    have hne : call.target.containingType.key ≠ d.key := fun h => hkey.mp h homits
    rw [inspect_of_handlesIn houter hcaller hhandles, isHandler_of_assembly_eq_empty hcallee homits.1, hhandles.2]
    simp [hne]
  refine ⟨⟨?_, ?_⟩, hreported⟩
  · rintro hnil ⟨homits, hhandles⟩
    rw [hreported homits hhandles] at hnil
    cases hnil
  · intro hnot
    by_cases hhandles : HandlesIn p call d
    · have hsame : call.target.containingType.key = d.key := hkey.mpr fun homits => hnot ⟨homits, hhandles⟩
      rw [inspect_of_handlesIn houter hcaller hhandles]
      simp [hsame]
    · exact inspect_eq_nil_of_not_handlesIn houter hcaller hhandles

/-- A handler and the interface that makes it one. -/
def shop : Program where
  types := [
    { name := "IRequestHandler", scope := "MediatR", assembly := "MediatR", typeParameters := ["TRequest"],
      kind := .interfaceType, inSource := false },
    { name := "ShipOrderCommandHandler", scope := "Shop", assembly := "Shop",
      interfaces := [
        { name := "IRequestHandler", scope := "MediatR", assembly := "MediatR",
          arguments := [{ name := "ShipOrderCommand" }] }] }]

/-- The reference to the handler with an assembly. -/
def shopRef (assembly : String) : TypeRef := { name := "ShipOrderCommandHandler", scope := "Shop", assembly }

/-- A call of the handler's own method, where the called type is given with an assembly. -/
def shopCall (assembly : String) : Invocation where
  target := { name := "Handle", containingType := shopRef assembly }
  containingType := some (shopRef "Shop")

theorem own_call_unreported_iff_qualified :
    shop.resolve (shopRef "Shop") = some shop.types[1]
      ∧ HandlesIn shop (shopCall "Shop") shop.types[1]
      ∧ inspect (Context.ofProgram shop) (shopCall "Shop") = [] := by
  have hresolve : shop.resolve (shopRef "Shop") = some shop.types[1] := by decide +kernel
  have hhandles : HandlesIn shop (shopCall "Shop") shop.types[1] := ⟨rfl, by decide +kernel⟩
  refine ⟨hresolve, hhandles, (own_call_unreported_iff rfl hresolve hresolve).1.mpr ?_⟩
  rintro ⟨⟨hassembly, -⟩, -⟩
  exact absurd hassembly (by decide)

/-- Both references resolve to the handler, but its call of itself is reported. -/
theorem unqualified_own_call_reported :
    (shopCall "").containingType = some (shopRef "Shop")
      ∧ shop.resolve (shopRef "Shop") = some shop.types[1]
      ∧ shop.resolve (shopCall "").target.containingType = some shop.types[1]
      ∧ (inspect (Context.ofProgram shop) (shopCall "")).map (·.ruleId) = ["GMDTR09"] := by
  refine ⟨rfl, ?_⟩
  decide +kernel

end HandlerCall

end Mediation
