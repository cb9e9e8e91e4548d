import Mathlib.Data.List.Nodup
import Mediation.Symbol.Lookup

/-!
# Looking up and searching

The indexes over a list of declarations answer as a search through the list would: by identity with the first
declaration, by metadata name with the only one. What a reference means is therefore always the first declaration
with its own identity, and among the declarations that are ever found an identity determines the declaration.
-/

namespace Mediation

namespace SymbolTable

/-- All declarations that are entered under a metadata name. -/
def named (t : SymbolTable) (name : String) : List TypeDecl := (t.byName.get? name).getD []

theorem resolve_eq_some_iff (t : SymbolTable) (r : TypeRef) (d : TypeDecl) :
    t.resolve r = some d
      ↔ t.find? r.key = some d
        ∨ t.find? r.key = none ∧ r.assembly = "" ∧ t.findUnique? r.metadataName = some d := by
  rw [resolve]
  cases t.find? r.key with
  | some e => simp
  | none => by_cases hassembly : r.assembly = "" <;> simp [hassembly]

/-! ### Entering one declaration -/

theorem find?_add (t : SymbolTable) (d : TypeDecl) (key : DefinitionKey) :
    (t.add d).find? key = (t.find? key).or (if d.key = key then some d else none) := by
  rw [find?, add, Table.insertNew, Table.get?_alter]
  by_cases hkey : key = d.key
  · rw [if_pos hkey, if_pos hkey.symm, ← hkey, find?]
    cases t.byKey.get? key <;> rfl
  · rw [if_neg hkey, if_neg (Ne.symm hkey), Option.or_none, find?]

theorem named_add (t : SymbolTable) (d : TypeDecl) (name : String) :
    (t.add d).named name = t.named name ++ if d.metadataName = name then [d] else [] := by
  rw [named, add, Table.get?_alter]
  by_cases hname : name = d.metadataName
  · rw [if_pos hname, if_pos hname.symm, Option.getD_some, ← hname, named]
  · rw [if_neg hname, if_neg (Ne.symm hname), List.append_nil, named]

/-! ### Entering all declarations -/

theorem find?_foldl_add (decls : List TypeDecl) (t : SymbolTable) (key : DefinitionKey) :
    (decls.foldl add t).find? key = (t.find? key).or (decls.find? fun d => d.key = key) := by
  induction decls generalizing t with
  | nil => simp
  | cons d decls ih =>
    rw [List.foldl_cons, ih, find?_add, List.find?_cons, Option.or_assoc]
    by_cases hkey : d.key = key <;> simp [hkey]

theorem named_foldl_add (decls : List TypeDecl) (t : SymbolTable) (name : String) :
    (decls.foldl add t).named name = t.named name ++ decls.filter fun d => d.metadataName = name := by
  induction decls generalizing t with
  | nil => simp
  | cons d decls ih =>
    rw [List.foldl_cons, ih, named_add, List.append_assoc, List.filter_cons]
    by_cases hname : d.metadataName = name <;> simp [hname]

variable (decls : List TypeDecl)

/-- Under an identity stands the first declaration that has it. -/
theorem find?_ofDecls (key : DefinitionKey) : (ofDecls decls).find? key = decls.find? fun d => d.key = key := by
  rw [ofDecls, find?_foldl_add]
  rfl

/-- Under a metadata name stand the declarations that have it, in their order. -/
theorem named_ofDecls (name : String) :
    (ofDecls decls).named name = decls.filter fun d => d.metadataName = name := by
  rw [ofDecls, named_foldl_add]
  rfl

theorem findUnique?_eq_some_iff (name : String) (d : TypeDecl) :
    (ofDecls decls).findUnique? name = some d ↔ decls.filter (fun d => d.metadataName = name) = [d] := by
  rw [← named_ofDecls, findUnique?, named]
  cases (ofDecls decls).byName.get? name with
  | none => simp
  | some found =>
    rcases found with _ | ⟨first, _ | ⟨second, rest⟩⟩ <;> simp

variable {decls}

theorem key_of_find? {key : DefinitionKey} {d : TypeDecl} (h : (ofDecls decls).find? key = some d) :
    d.key = key := by
  rw [find?_ofDecls] at h
  simpa using List.find?_some h

theorem mem_of_find? {key : DefinitionKey} {d : TypeDecl} (h : (ofDecls decls).find? key = some d) :
    d ∈ decls := by
  rw [find?_ofDecls] at h
  exact List.mem_of_find?_eq_some h

theorem isSome_find?_iff (key : DefinitionKey) :
    ((ofDecls decls).find? key).isSome = true ↔ ∃ d ∈ decls, d.key = key := by
  rw [find?_ofDecls]
  simp

/-- Where identities are distinct, every declaration stands under its own. -/
theorem find?_key_of_mem (hkeys : (decls.map TypeDecl.key).Nodup) {d : TypeDecl} (hd : d ∈ decls) :
    (ofDecls decls).find? d.key = some d := by
  obtain ⟨e, he⟩ := Option.isSome_iff_exists.mp ((isSome_find?_iff d.key).mpr ⟨d, hd, rfl⟩)
  rw [he, List.inj_on_of_nodup_map hkeys (mem_of_find? he) hd (key_of_find? he)]

theorem mem_and_metadataName_of_findUnique? {name : String} {d : TypeDecl}
    (h : (ofDecls decls).findUnique? name = some d) : d ∈ decls ∧ d.metadataName = name := by
  rw [findUnique?_eq_some_iff] at h
  have hmem : d ∈ decls.filter fun d => d.metadataName = name := by
    rw [h]
    exact List.mem_singleton_self d
  simpa using hmem

/-- The only declaration with a metadata name is the first one with its identity. -/
theorem find?_key_of_findUnique? {name : String} {d : TypeDecl} (h : (ofDecls decls).findUnique? name = some d) :
    (ofDecls decls).find? d.key = some d := by
  have hd := mem_and_metadataName_of_findUnique? h
  rw [findUnique?_eq_some_iff] at h
  obtain ⟨e, he⟩ := Option.isSome_iff_exists.mp ((isSome_find?_iff d.key).mpr ⟨d, hd.1, rfl⟩)
  have hname : e.metadataName = name := by
    rw [← hd.2]
    exact congrArg DefinitionKey.metadataName (key_of_find? he)
  have hmem : e ∈ decls.filter fun d => d.metadataName = name := by
    simpa [hname] using mem_of_find? he
  rw [h, List.mem_singleton] at hmem
  rw [he, hmem]

/-- What a reference means is the first declaration with its own identity. -/
theorem find?_key_of_resolve {r : TypeRef} {d : TypeDecl} (h : (ofDecls decls).resolve r = some d) :
    (ofDecls decls).find? d.key = some d := by
  rcases (resolve_eq_some_iff _ r d).mp h with hfind | ⟨-, -, hunique⟩
  · rw [key_of_find? hfind, hfind]
  · exact find?_key_of_findUnique? hunique

theorem mem_of_resolve {r : TypeRef} {d : TypeDecl} (h : (ofDecls decls).resolve r = some d) : d ∈ decls :=
  mem_of_find? (find?_key_of_resolve h)

theorem metadataName_of_resolve {r : TypeRef} {d : TypeDecl} (h : (ofDecls decls).resolve r = some d) :
    d.metadataName = r.metadataName := by
  rcases (resolve_eq_some_iff _ r d).mp h with hfind | ⟨-, -, hunique⟩
  · exact congrArg DefinitionKey.metadataName (key_of_find? hfind)
  · exact (mem_and_metadataName_of_findUnique? hunique).2

end SymbolTable

end Mediation
