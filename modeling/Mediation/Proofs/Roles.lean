import Mathlib.Data.List.Nodup
import Mediation.Message.Classification
import Mediation.Proofs.Ancestors

/-!
# Roles and the interfaces that give them

A declaration has a role exactly if a marker interface of that role, which the program declares, is among the
interfaces of the declaration or of one above it. The role that decides is the first of them in the order of
priority.
-/

namespace Mediation

/-! ### Markers of a program -/

namespace Library

theorem nodup_keys_markers : (markers.map Marker.key).Nodup := by decide

theorem role_mem_priority {m : Marker} (hm : m ∈ markers) : m.role ∈ Role.priority := by
  revert m
  decide

end Library

namespace Program

theorem mem_markers_catalog (p : Program) (m : Library.Marker) :
    m ∈ p.catalog.markers ↔ m ∈ Library.markers ∧ ∃ t ∈ p.types, t.key = m.key := by
  have hfind := @SymbolTable.isSome_find?_iff p.types m.key
  rw [← hfind]
  exact List.mem_filter

/-- A reference to a marker interface gives its role if the program declares the interface. -/
theorem markerRole?_eq_some_iff (p : Program) (r : TypeRef) (role : Role) :
    p.catalog.markerRole? r = some role
      ↔ ∃ m ∈ Library.markers, m.key = r.key ∧ m.role = role ∧ ∃ t ∈ p.types, t.key = m.key := by
  rw [Catalog.markerRole?, Option.map_eq_some_iff]
  constructor
  · rintro ⟨m, hfind, hrole⟩
    obtain ⟨hm, hdeclared⟩ := (p.mem_markers_catalog m).mp (List.mem_of_find?_eq_some hfind)
    have hkey : m.key = r.key := by simpa using List.find?_some hfind
    exact ⟨m, hm, hkey, hrole, hdeclared⟩
  · rintro ⟨m, hm, hkey, hrole, hdeclared⟩
    have hmem := (p.mem_markers_catalog m).mpr ⟨hm, hdeclared⟩
    cases hfind : p.catalog.markers.find? fun m => m.key = r.key with
    | none =>
      have hnone := List.find?_eq_none.mp hfind m hmem
      simp [hkey] at hnone
    | some m' =>
      -- Two markers with one identity are the same.
      have hm' := ((p.mem_markers_catalog m').mp (List.mem_of_find?_eq_some hfind)).1
      have hkey' : m'.key = r.key := by simpa using List.find?_some hfind
      have hsame : m' = m := List.inj_on_of_nodup_map Library.nodup_keys_markers hm' hm (hkey'.trans hkey.symm)
      exact ⟨m', rfl, hsame ▸ hrole⟩

theorem hasMarkers_of_mem (p : Program) {m : Library.Marker} (hm : m ∈ p.catalog.markers) :
    p.catalog.hasMarkers = true := by
  rw [Catalog.hasMarkers]
  cases hmarkers : p.catalog.markers with
  | nil => simp [hmarkers] at hm
  | cons => rfl

end Program

/-! ### Roles of a declaration -/

namespace Context

@[simp] theorem symbols_ofProgram (p : Program) : (ofProgram p).symbols = p.symbols := rfl

@[simp] theorem catalog_ofProgram (p : Program) : (ofProgram p).catalog = p.catalog := rfl

theorem nodup_eraseDups : (roles : List Role) → roles.eraseDups.Nodup
  | [] => List.nodup_nil
  | role :: roles => by
    rw [List.eraseDups_cons, List.nodup_cons]
    refine ⟨?_, nodup_eraseDups _⟩
    simp [List.mem_eraseDups]
termination_by roles => roles.length
decreasing_by exact Nat.lt_succ_of_le (List.length_filter_le _ _)

theorem nodup_rolesOf (c : Context) (d : TypeDecl) : (c.rolesOf d).Nodup := by
  rw [rolesOf]
  split
  · exact nodup_eraseDups _
  · exact List.nodup_nil

variable (p : Program) (d : TypeDecl)

theorem mem_rolesOf_iff (role : Role) :
    role ∈ (Context.ofProgram p).rolesOf d
      ↔ ∃ e, p.symbols.Above d e ∧ ∃ i ∈ e.interfaces, ∃ m ∈ Library.markers,
          m.key = i.key ∧ m.role = role ∧ ∃ t ∈ p.types, t.key = m.key := by
  have hinterfaces : ∀ i, i ∈ p.symbols.interfaces d ↔ ∃ e, p.symbols.Above d e ∧ i ∈ e.interfaces :=
    SymbolTable.mem_interfaces_iff p.types d
  have hroles : (∃ i ∈ p.symbols.interfaces d, p.catalog.markerRole? i = some role)
      ↔ ∃ e, p.symbols.Above d e ∧ ∃ i ∈ e.interfaces, ∃ m ∈ Library.markers,
          m.key = i.key ∧ m.role = role ∧ ∃ t ∈ p.types, t.key = m.key := by
    simp only [hinterfaces, Program.markerRole?_eq_some_iff]
    constructor
    · rintro ⟨i, ⟨e, he, hi⟩, hm⟩
      exact ⟨e, he, i, hi, hm⟩
    · rintro ⟨e, he, i, hi, hm⟩
      exact ⟨i, ⟨e, he, hi⟩, hm⟩
  rw [← hroles, rolesOf, catalog_ofProgram, symbols_ofProgram]
  split
  · exact List.mem_eraseDups.trans List.mem_filterMap
  · rename_i hmarkers
    constructor
    · intro h
      simp at h
    · rintro ⟨i, -, hi⟩
      obtain ⟨m, hm, -, -, hdeclared⟩ := (p.markerRole?_eq_some_iff i role).mp hi
      exact absurd (p.hasMarkers_of_mem ((p.mem_markers_catalog m).mpr ⟨hm, hdeclared⟩)) hmarkers

theorem mem_priority_of_mem_rolesOf {role : Role} (h : role ∈ (Context.ofProgram p).rolesOf d) :
    role ∈ Role.priority := by
  obtain ⟨-, -, -, -, m, hm, -, rfl, -⟩ := (mem_rolesOf_iff p d role).mp h
  exact Library.role_mem_priority hm

/-- The role that decides is the first in the order of priority that the declaration has. -/
theorem classify_first_of_mem_rolesOf {role : Role} (hrole : role ∈ (Context.ofProgram p).rolesOf d) :
    ∃ before after, Role.priority = before ++ (Context.ofProgram p).classify d :: after
      ∧ (Context.ofProgram p).classify d ∈ (Context.ofProgram p).rolesOf d
      ∧ ∀ other ∈ before, other ∉ (Context.ofProgram p).rolesOf d := by
  cases hfind : Role.priority.find? fun role => role ∈ (Context.ofProgram p).rolesOf d with
  | none =>
    have hnone := List.find?_eq_none.mp hfind role (mem_priority_of_mem_rolesOf p d hrole)
    simp [hrole] at hnone
  | some first =>
    have hclassify : (Context.ofProgram p).classify d = first := by
      rw [classify, hfind]
      rfl
    obtain ⟨hfirst, before, after, hpriority, hbefore⟩ := List.find?_eq_some_iff_append.mp hfind
    rw [hclassify]
    refine ⟨before, after, hpriority, by simpa using hfirst, fun other hother => ?_⟩
    simpa using hbefore other hother

theorem classify_eq_unclassified_iff :
    (Context.ofProgram p).classify d = .unclassified ↔ (Context.ofProgram p).rolesOf d = [] := by
  constructor
  · intro hclassify
    rw [List.eq_nil_iff_forall_not_mem]
    intro role hrole
    obtain ⟨-, -, -, hmem, -⟩ := classify_first_of_mem_rolesOf p d hrole
    have hpriority := mem_priority_of_mem_rolesOf p d hmem
    rw [hclassify] at hpriority
    exact absurd hpriority (by decide)
  · intro hroles
    rw [classify, hroles]
    rfl

/-- The roles of a declaration are those of the declared marker interfaces on it or on the declarations above it,
and the first of them in the order of priority decides. -/
theorem roles_and_classification :
    (∀ role, role ∈ (Context.ofProgram p).rolesOf d
      ↔ ∃ e, p.symbols.Above d e ∧ ∃ i ∈ e.interfaces, ∃ m ∈ Library.markers,
          m.key = i.key ∧ m.role = role ∧ ∃ t ∈ p.types, t.key = m.key)
      ∧ ((Context.ofProgram p).rolesOf d ≠ [] →
        ∃ before after, Role.priority = before ++ (Context.ofProgram p).classify d :: after
          ∧ (Context.ofProgram p).classify d ∈ (Context.ofProgram p).rolesOf d
          ∧ ∀ other ∈ before, other ∉ (Context.ofProgram p).rolesOf d)
      ∧ ((Context.ofProgram p).classify d = .unclassified ↔ (Context.ofProgram p).rolesOf d = []) := by
  refine ⟨mem_rolesOf_iff p d, fun hroles => ?_, classify_eq_unclassified_iff p d⟩
  obtain ⟨role, hrole⟩ := List.exists_mem_of_ne_nil _ hroles
  exact classify_first_of_mem_rolesOf p d hrole

end Context

end Mediation
