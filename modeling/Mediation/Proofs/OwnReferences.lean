import Mathlib.Data.List.Basic
import Mediation.Proofs.Lookup
import Mediation.Proofs.MetadataNames

/-!
# References of declarations to themselves

A declaration hands out a reference to itself by its simple name, without type arguments. References to a declaration
have its identity if they have as many type arguments as it has parameters, whatever the arguments are. So the reference
that is handed out leads back for declarations that are not generic. That of a generic declaration has another identity,
and it may lead to a declaration of the same name without parameters.
-/

namespace Mediation

namespace TypeDecl

/-- The reference of a declaration to itself with type arguments. -/
def constructed (d : TypeDecl) (arguments : List TypeRef) : TypeRef := { d.ref with arguments }

theorem constructed_nil (d : TypeDecl) : d.constructed [] = d.ref := rfl

theorem metadataName_constructed_iff (d : TypeDecl) (arguments : List TypeRef) :
    (d.constructed arguments).metadataName = d.metadataName ↔ arguments.length = d.typeParameters.length :=
  metadataName_arity_inj d.scope d.name

theorem key_constructed_iff (d : TypeDecl) (arguments : List TypeRef) :
    (d.constructed arguments).key = d.key ↔ arguments.length = d.typeParameters.length := by
  rw [TypeRef.key, key, DefinitionKey.mk.injEq, metadataName_constructed_iff]
  exact and_iff_left rfl

end TypeDecl

namespace SymbolTable

variable {decls : List TypeDecl} {d : TypeDecl}

theorem resolve_constructed_iff (hkeys : (decls.map TypeDecl.key).Nodup) (hd : d ∈ decls) (arguments : List TypeRef) :
    (ofDecls decls).resolve (d.constructed arguments) = some d ↔ arguments.length = d.typeParameters.length := by
  constructor
  · intro hresolve
    exact (d.metadataName_constructed_iff arguments).mp (metadataName_of_resolve hresolve).symm
  · intro hlength
    rw [resolve_eq_some_iff, (d.key_constructed_iff arguments).mpr hlength]
    exact Or.inl (find?_key_of_mem hkeys hd)

end SymbolTable

namespace Program

variable {p : Program} {d : TypeDecl}

/-- The reference that a declaration hands out leads back to it exactly if the declaration has no type parameters, and
so it is with identities. With type arguments it leads back exactly if these are as many as the parameters. -/
theorem own_reference_leads_back_iff (hkeys : (p.types.map TypeDecl.key).Nodup) (hd : d ∈ p.types) :
    (d.ref.key = d.key ↔ d.typeParameters = [])
      ∧ (p.resolve d.ref = some d ↔ d.typeParameters = [])
      ∧ ∀ arguments : List TypeRef,
        p.resolve (d.constructed arguments) = some d ↔ arguments.length = d.typeParameters.length := by
  have hlength : ([] : List TypeRef).length = d.typeParameters.length ↔ d.typeParameters = [] := by
    rw [List.length_nil, eq_comm, List.length_eq_zero_iff]
  refine ⟨?_, ?_, SymbolTable.resolve_constructed_iff hkeys hd⟩
  · rw [← d.constructed_nil, d.key_constructed_iff, hlength]
  · rw [← d.constructed_nil, ← hlength]
    exact SymbolTable.resolve_constructed_iff hkeys hd []

/-- A declaration and a generic one of the same name. -/
def boxes : Program where
  types := [{ name := "Box", assembly := "Shop" }, { name := "Box", assembly := "Shop", typeParameters := ["T"] }]

theorem own_reference_leads_back_iff_boxes :
    boxes.resolve boxes.types[0].ref = some boxes.types[0]
      ∧ boxes.resolve (boxes.types[1].constructed [{ name := "Order" }]) = some boxes.types[1] := by
  have hkeys : (boxes.types.map TypeDecl.key).Nodup := by decide +kernel
  have hplain : boxes.types[0] ∈ boxes.types := List.getElem_mem _
  have hgeneric : boxes.types[1] ∈ boxes.types := List.getElem_mem _
  constructor
  · exact (own_reference_leads_back_iff hkeys hplain).2.1.mpr rfl
  · exact ((own_reference_leads_back_iff hkeys hgeneric).2.2 _).mpr rfl

/-- The reference of the generic declaration to itself leads to the other one. -/
theorem generic_reference_leads_elsewhere :
    (boxes.types.map TypeDecl.key).Nodup
      ∧ boxes.types[1].ref.key ≠ boxes.types[1].key
      ∧ boxes.resolve boxes.types[1].ref = some boxes.types[0]
      ∧ boxes.types[0] ≠ boxes.types[1] := by
  decide +kernel

end Program

end Mediation
