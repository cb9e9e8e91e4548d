import Mathlib.Data.List.Basic
import Mediation.Convention.Dispatch
import Mediation.Proofs.Lookup
import Mediation.Proofs.Roles

/-!
# What a reference means and what the catalog takes it for

Resolving a reference goes by its identity, and without an assembly also by its metadata name alone. The catalog
compares identities only. A reference that names an assembly therefore means the same to both. One that names none
can resolve to a definition of the library, but the catalog never takes it for one.
-/

namespace Mediation

namespace Catalog

/-- The role that the interface with an identity gives. -/
def roleAt? (c : Catalog) (key : DefinitionKey) : Option Role := (c.markers.find? fun m => m.key = key).map (·.role)

/-- Whether an identity is that of a marker interface or of a dispatcher type. -/
def Lists (c : Catalog) (key : DefinitionKey) : Prop := (∃ role, c.roleAt? key = some role) ∨ key ∈ c.dispatchers

/-- The catalog takes a reference for what it would take the declaration for. -/
structure TakesFor (c : Catalog) (r : TypeRef) (d : TypeDecl) : Prop where
  role : c.markerRole? r = c.roleAt? d.key
  dispatcher : c.isDispatcher r = true ↔ d.key ∈ c.dispatchers

theorem markerRole?_eq_roleAt? (c : Catalog) (r : TypeRef) : c.markerRole? r = c.roleAt? r.key := rfl

theorem isDispatcher_iff (c : Catalog) (r : TypeRef) : c.isDispatcher r = true ↔ r.key ∈ c.dispatchers := by
  simp [isDispatcher]

theorem takesFor_of_key_eq (c : Catalog) {r : TypeRef} {d : TypeDecl} (hkey : r.key = d.key) : c.TakesFor r d := by
  constructor
  · rw [markerRole?_eq_roleAt?, hkey]
  · rw [isDispatcher_iff, hkey]

end Catalog

/-! ### References with an assembly -/

namespace SymbolTable

variable {decls : List TypeDecl} {r : TypeRef} {d : TypeDecl}

/-- Beyond its own identity a reference reaches a declaration by metadata name, if it names no assembly. -/
theorem key_eq_or_of_resolve (h : (ofDecls decls).resolve r = some d) : r.key = d.key ∨ r.assembly = "" := by
  rcases (resolve_eq_some_iff _ r d).mp h with hfind | ⟨-, hassembly, -⟩
  · exact Or.inl (key_of_find? hfind).symm
  · exact Or.inr hassembly

end SymbolTable

/-! ### Identities in the library -/

namespace Library

theorem assembly_ne_empty_of_mem_markers {m : Marker} (hm : m ∈ markers) : m.key.assembly ≠ "" := by
  revert m
  decide

theorem assembly_ne_empty_of_mem_dispatchers {key : DefinitionKey} (hkey : key ∈ dispatchers) :
    key.assembly ≠ "" := by
  revert key
  decide

end Library

namespace Program

variable (p : Program)

theorem mem_dispatchers_catalog (key : DefinitionKey) :
    key ∈ p.catalog.dispatchers ↔ key ∈ Library.dispatchers ∧ ∃ t ∈ p.types, t.key = key := by
  have hfind := @SymbolTable.isSome_find?_iff p.types key
  rw [← hfind]
  exact List.mem_filter

theorem assembly_ne_empty_of_lists {key : DefinitionKey} (h : p.catalog.Lists key) : key.assembly ≠ "" := by
  rcases h with ⟨role, hrole⟩ | hdispatcher
  · obtain ⟨m, hfind, -⟩ := Option.map_eq_some_iff.mp hrole
    have hm := ((p.mem_markers_catalog m).mp (List.mem_of_find?_eq_some hfind)).1
    have hkey : m.key = key := by simpa using List.find?_some hfind
    exact hkey ▸ Library.assembly_ne_empty_of_mem_markers hm
  · exact Library.assembly_ne_empty_of_mem_dispatchers ((p.mem_dispatchers_catalog key).mp hdispatcher).1

variable {r : TypeRef}

theorem markerRole?_eq_none_of_assembly_eq_empty (hassembly : r.assembly = "") : p.catalog.markerRole? r = none := by
  rw [Option.eq_none_iff_forall_ne_some]
  intro role hrole
  exact p.assembly_ne_empty_of_lists (Or.inl ⟨role, hrole⟩) hassembly

theorem isDispatcher_eq_false_of_assembly_eq_empty (hassembly : r.assembly = "") :
    p.catalog.isDispatcher r = false := by
  rw [Bool.eq_false_iff, Ne, Catalog.isDispatcher_iff]
  intro hmem
  exact p.assembly_ne_empty_of_lists (Or.inr hmem) hassembly

/-! ### The two notions side by side -/

variable {p} {d : TypeDecl}

theorem takesFor_of_assembly_ne_empty (h : p.resolve r = some d) (hassembly : r.assembly ≠ "") :
    p.catalog.TakesFor r d :=
  p.catalog.takesFor_of_key_eq ((SymbolTable.key_eq_or_of_resolve h).resolve_right hassembly)

theorem not_lists_of_takesFor (htakes : p.catalog.TakesFor r d) (hassembly : r.assembly = "") :
    ¬ p.catalog.Lists d.key := by
  rintro (⟨role, hrole⟩ | hdispatcher)
  · have hnone := p.markerRole?_eq_none_of_assembly_eq_empty hassembly
    rw [htakes.role, hrole] at hnone
    simp at hnone
  · have hfalse := p.isDispatcher_eq_false_of_assembly_eq_empty hassembly
    rw [htakes.dispatcher.mpr hdispatcher] at hfalse
    simp at hfalse

theorem takesFor_of_not_lists (hlists : ¬ p.catalog.Lists d.key) (hassembly : r.assembly = "") :
    p.catalog.TakesFor r d := by
  constructor
  · have hrole : p.catalog.roleAt? d.key = none := by
      rw [Option.eq_none_iff_forall_ne_some]
      exact fun role hrole => hlists (Or.inl ⟨role, hrole⟩)
    rw [hrole, p.markerRole?_eq_none_of_assembly_eq_empty hassembly]
  · rw [p.isDispatcher_eq_false_of_assembly_eq_empty hassembly]
    exact iff_of_false Bool.false_ne_true fun hmem => hlists (Or.inr hmem)

theorem takesFor_iff (h : p.resolve r = some d) :
    p.catalog.TakesFor r d ↔ r.assembly = "" → ¬ p.catalog.Lists d.key := by
  constructor
  · exact not_lists_of_takesFor
  · intro hlists
    by_cases hassembly : r.assembly = ""
    · exact takesFor_of_not_lists (hlists hassembly) hassembly
    · exact takesFor_of_assembly_ne_empty h hassembly

/-- An interface of a declaration gives the declaration the role that the catalog takes it to give. -/
theorem role_mem_rolesOf_of_mem_interfaces {t : TypeDecl} (hr : r ∈ t.interfaces) {role : Role}
    (hrole : p.catalog.markerRole? r = some role) : role ∈ (Context.ofProgram p).rolesOf t := by
  rw [Context.mem_rolesOf_iff]
  exact ⟨t, .self, r, hr, (p.markerRole?_eq_some_iff r role).mp hrole⟩

/-- The catalog takes a reference for the declaration that it resolves to, unless that is a definition of the
library and the reference names no assembly: then it gives no role and is no dispatcher. In all other cases an
interface that resolves to a marker gives its role, and a call on what resolves to a dispatcher type counts as a
call of the dispatcher. -/
theorem catalog_takes_references (h : p.resolve r = some d) :
    (p.catalog.TakesFor r d ↔ r.assembly = "" → ¬ p.catalog.Lists d.key)
      ∧ (r.assembly = "" → p.catalog.markerRole? r = none ∧ p.catalog.isDispatcher r = false)
      ∧ (r.assembly ≠ "" →
        (∀ t : TypeDecl, r ∈ t.interfaces → ∀ role, p.catalog.roleAt? d.key = some role →
          role ∈ (Context.ofProgram p).rolesOf t)
        ∧ ∀ call : Invocation, call.target.containingType = r → d.key ∈ p.catalog.dispatchers →
          p.catalog.isDispatcher call.target.containingType = true) := by
  refine ⟨takesFor_iff h, fun hassembly => ?_, fun hassembly => ?_⟩
  · exact ⟨p.markerRole?_eq_none_of_assembly_eq_empty hassembly,
      p.isDispatcher_eq_false_of_assembly_eq_empty hassembly⟩
  · have htakes := takesFor_of_assembly_ne_empty h hassembly
    constructor
    · intro t hr role hrole
      exact role_mem_rolesOf_of_mem_interfaces hr (htakes.role.trans hrole)
    · rintro call rfl hmem
      exact htakes.dispatcher.mpr hmem

/-- A query that refers to its marker interface by assembly, and an order that does so without one. -/
def queryAndOrder : Program where
  types :=
    [{ name := "IRequest", scope := "MediatR", assembly := "MediatR.Contracts", kind := .interfaceType },
      { name := "Query", interfaces := [{ name := "IRequest", scope := "MediatR", assembly := "MediatR.Contracts" }] },
      { name := "Order", interfaces := [{ name := "IRequest", scope := "MediatR" }] }]

theorem catalog_takes_references_query :
    ∃ query ∈ queryAndOrder.types, ∃ i ∈ query.interfaces, ∃ marker, queryAndOrder.resolve i = some marker
      ∧ queryAndOrder.catalog.TakesFor i marker ∧ .request ∈ (Context.ofProgram queryAndOrder).rolesOf query := by
  let i : TypeRef := { name := "IRequest", scope := "MediatR", assembly := "MediatR.Contracts" }
  have hassembly : i.assembly ≠ "" := by decide
  have hmem : i ∈ queryAndOrder.types[1].interfaces := List.mem_singleton_self i
  have hresolve : queryAndOrder.resolve i = some queryAndOrder.types[0] := by decide +kernel
  have htakes := catalog_takes_references hresolve
  refine ⟨queryAndOrder.types[1], by decide +kernel, i, hmem, queryAndOrder.types[0], hresolve, ?_, ?_⟩
  · exact htakes.1.mpr fun hempty => absurd hempty hassembly
  · exact (htakes.2.2 hassembly).1 _ hmem .request (by decide +kernel)

/-- The order resolves its interface to the marker of requests, but it is not one of them. -/
theorem unqualified_marker_gives_no_role :
    ∃ order ∈ queryAndOrder.types, ∃ i ∈ order.interfaces, ∃ marker, queryAndOrder.resolve i = some marker
      ∧ queryAndOrder.catalog.roleAt? marker.key = some .request
      ∧ queryAndOrder.catalog.markerRole? i = none
      ∧ (Context.ofProgram queryAndOrder).rolesOf order = [] := by
  refine ⟨queryAndOrder.types[2], by decide +kernel, { name := "IRequest", scope := "MediatR" }, by decide +kernel,
    queryAndOrder.types[0], ?_⟩
  decide +kernel

end Program

end Mediation
