import Mathlib.Data.List.Basic
import Mediation.Proofs.Lookup

/-!
# What a reference means, by a search

The meaning of a reference, said by places in the list of declarations and without an index: the first declaration with
the identity of the reference, or else, for a reference without an assembly, the only one with its metadata name. The
indexes give it exactly. Whatever is found is the first declaration with its own identity, by name as well, so that an
identity never stands for two declarations.
-/

namespace Mediation

/-! ### Places in a list -/

/-- The first element of a list with a property. -/
def IsFirst {α : Type} (P : α → Prop) (xs : List α) (x : α) : Prop :=
  ∃ before later, xs = before ++ x :: later ∧ P x ∧ ∀ y ∈ before, ¬ P y

/-- The only element of a list with a property; a copy of it counts as another one. -/
def IsOnly {α : Type} (P : α → Prop) (xs : List α) (x : α) : Prop :=
  ∃ before later, xs = before ++ x :: later ∧ P x ∧ ∀ y ∈ before ++ later, ¬ P y

section Places

variable {α : Type} {P : α → Prop} [DecidablePred P] {xs : List α} {x : α}

theorem isFirst_iff_find? : IsFirst P xs x ↔ xs.find? (fun y => P y) = some x := by
  rw [List.find?_eq_some_iff_append, decide_eq_true_eq]
  constructor
  · rintro ⟨before, later, rfl, hx, hbefore⟩
    exact ⟨hx, before, later, rfl, by simpa using hbefore⟩
  · rintro ⟨hx, before, later, rfl, hbefore⟩
    exact ⟨before, later, rfl, hx, by simpa using hbefore⟩

theorem isOnly_iff_filter : IsOnly P xs x ↔ xs.filter (fun y => P y) = [x] := by
  rw [List.filter_eq_cons_iff]
  constructor
  · rintro ⟨before, later, rfl, hx, hothers⟩
    refine ⟨before, later, rfl, fun y hy => ?_, by simpa using hx, ?_⟩
    · simpa using hothers y (List.mem_append_left later hy)
    · rw [List.filter_eq_nil_iff]
      intro y hy
      simpa using hothers y (List.mem_append_right before hy)
  · rintro ⟨before, later, rfl, hbefore, hx, hlater⟩
    rw [List.filter_eq_nil_iff] at hlater
    refine ⟨before, later, rfl, by simpa using hx, fun y hy => ?_⟩
    rcases List.mem_append.mp hy with hy | hy
    · simpa using hbefore y hy
    · simpa using hlater y hy

theorem exists_isOnly_iff : (∃ x, IsOnly P xs x) ↔ xs.countP (fun y => P y) = 1 := by
  rw [List.countP_eq_length_filter, List.length_eq_one_iff]
  simp only [isOnly_iff_filter]

end Places

/-! ### Meanings -/

/-- What a reference means among declarations. -/
inductive TypeRef.Means (r : TypeRef) (decls : List TypeDecl) (d : TypeDecl) : Prop where
  | byKey (hfirst : IsFirst (fun e => e.key = r.key) decls d)
  | byName (hnone : ∀ e ∈ decls, e.key ≠ r.key) (hassembly : r.assembly = "")
      (honly : IsOnly (fun e => e.metadataName = r.metadataName) decls d)

namespace SymbolTable

variable {decls : List TypeDecl} {r s : TypeRef} {d e : TypeDecl}

theorem find?_eq_some_iff_isFirst {key : DefinitionKey} :
    (ofDecls decls).find? key = some d ↔ IsFirst (fun e => e.key = key) decls d := by
  rw [find?_ofDecls, isFirst_iff_find?]

theorem find?_eq_none_iff {key : DefinitionKey} : (ofDecls decls).find? key = none ↔ ∀ e ∈ decls, e.key ≠ key := by
  rw [find?_ofDecls]
  simp

theorem findUnique?_eq_some_iff_isOnly {name : String} :
    (ofDecls decls).findUnique? name = some d ↔ IsOnly (fun e => e.metadataName = name) decls d := by
  rw [findUnique?_eq_some_iff, isOnly_iff_filter]

theorem findUnique?_eq_none_iff {name : String} :
    (ofDecls decls).findUnique? name = none ↔ decls.countP (fun e => e.metadataName = name) ≠ 1 := by
  rw [Option.eq_none_iff_forall_ne_some, ne_eq, ← exists_isOnly_iff, not_exists]
  simp only [ne_eq, findUnique?_eq_some_iff_isOnly]

theorem resolve_eq_some_iff_means : (ofDecls decls).resolve r = some d ↔ r.Means decls d := by
  rw [resolve_eq_some_iff, find?_eq_some_iff_isFirst, find?_eq_none_iff, findUnique?_eq_some_iff_isOnly]
  constructor
  · rintro (hfirst | ⟨hnone, hassembly, honly⟩)
    · exact .byKey hfirst
    · exact .byName hnone hassembly honly
  · rintro (hfirst | ⟨hnone, hassembly, honly⟩)
    · exact Or.inl hfirst
    · exact Or.inr ⟨hnone, hassembly, honly⟩

theorem resolve_eq_none_iff :
    (ofDecls decls).resolve r = none
      ↔ (∀ e ∈ decls, e.key ≠ r.key)
        ∧ (r.assembly = "" → decls.countP (fun e => e.metadataName = r.metadataName) ≠ 1) := by
  rw [resolve, ← find?_eq_none_iff, ← findUnique?_eq_none_iff]
  cases (ofDecls decls).find? r.key with
  | some d => simp
  | none => by_cases hassembly : r.assembly = "" <;> simp [hassembly]

theorem eq_of_key_eq_of_resolve (hd : (ofDecls decls).resolve r = some d) (he : (ofDecls decls).resolve s = some e)
    (hkey : e.key = d.key) : e = d := by
  have hfind := find?_key_of_resolve he
  rw [hkey, find?_key_of_resolve hd] at hfind
  exact (Option.some.inj hfind).symm

end SymbolTable

namespace Program

/-- The indexes give the meaning of a reference, and nothing exactly when there is none: no declaration has its
identity, and if it names no assembly, the number of declarations with its metadata name is not one. What is found is
the first declaration with its own identity, and the same for all references that lead to this identity. -/
theorem resolve_agrees_with_search (p : Program) (r : TypeRef) :
    (∀ d, p.resolve r = some d ↔ r.Means p.types d)
      ∧ (p.resolve r = none
        ↔ (∀ e ∈ p.types, e.key ≠ r.key)
          ∧ (r.assembly = "" → p.types.countP (fun e => e.metadataName = r.metadataName) ≠ 1))
      ∧ ∀ d, p.resolve r = some d →
        IsFirst (fun e => e.key = d.key) p.types d ∧ ∀ s e, p.resolve s = some e → e.key = d.key → e = d := by
  refine ⟨fun d => SymbolTable.resolve_eq_some_iff_means, SymbolTable.resolve_eq_none_iff, fun d hd => ⟨?_, ?_⟩⟩
  · exact SymbolTable.find?_eq_some_iff_isFirst.mp (SymbolTable.find?_key_of_resolve hd)
  · intro s e he hkey
    exact SymbolTable.eq_of_key_eq_of_resolve hd he hkey

/-- Two declarations with one identity, a third of this name in another assembly, and one with a name of its own. -/
def duplicates : Program where
  types :=
    [{ name := "Box", assembly := "Shop" }, { name := "Box", assembly := "Shop", kind := .structType },
      { name := "Box", assembly := "Depot" }, { name := "Crate", assembly := "Depot" }]

theorem resolve_agrees_with_search_duplicates :
    duplicates.resolve { name := "Box" } = none
      ∧ IsFirst (fun e => e.key = ⟨"Crate", "Depot"⟩) duplicates.types { name := "Crate", assembly := "Depot" }
      ∧ ({ name := "Box", assembly := "Shop" } : TypeRef).Means duplicates.types { name := "Box", assembly := "Shop" } := by
  have hcrate : duplicates.resolve { name := "Crate" } = some { name := "Crate", assembly := "Depot" } := by
    decide +kernel
  have hbox : duplicates.resolve { name := "Box", assembly := "Shop" } = some { name := "Box", assembly := "Shop" } := by
    decide +kernel
  refine ⟨?_, ?_, ?_⟩
  · exact (resolve_agrees_with_search duplicates { name := "Box" }).2.1.mpr (by decide +kernel)
  · exact ((resolve_agrees_with_search duplicates { name := "Crate" }).2.2 _ hcrate).1
  · exact ((resolve_agrees_with_search duplicates _).1 _).mp hbox

end Program

end Mediation
