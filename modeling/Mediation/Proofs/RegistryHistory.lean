import Mathlib.Data.List.Nodup
import Mediation.Runner

/-!
# Registries over time

A registry comes about by single changes: a checker is registered or removed, and a name is enabled or disabled.
Whatever the changes were, every checker stands under its own name. So a selection can be read off the names that it
takes: a name that a selection takes leads back to the checker, and selecting checkers by their names gives them back.
-/

namespace Mediation

namespace Registry

/-- A change of a registry. -/
inductive Change where
  | register (c : Checker)
  | unregister (name : String)
  | enable (name : String)
  | disable (name : String)

def change (r : Registry) : Change → Registry
  | .register c => r.register c
  | .unregister name => r.unregister name
  | .enable name => r.enable name
  | .disable name => r.disable name

/-- The registry after changes one after the other. -/
def after (r : Registry) (changes : List Change) : Registry := changes.foldl change r

/-- The registries that there are: each comes from the empty one by changes. -/
def Built (r : Registry) : Prop := ∃ changes, r = empty.after changes

theorem built_standard : standard.Built := ⟨suite.map .register, rfl⟩

theorem Built.after {r : Registry} (h : r.Built) (changes : List Change) : (r.after changes).Built := by
  obtain ⟨earlier, rfl⟩ := h
  exact ⟨earlier ++ changes, List.foldl_append.symm⟩

/-! ### Names and checkers -/

/-- Every checker stands under its own name. -/
def Labelled (r : Registry) : Prop := ∀ name c, (name, c) ∈ r.checkers.entries → c.name = name

theorem labelled_empty : empty.Labelled := by
  intro name c h
  cases h

theorem Labelled.change {r : Registry} (h : r.Labelled) (step : Change) : (r.change step).Labelled := by
  cases step with
  | register registered =>
    intro name c hmem
    have hget : (r.checkers.insert registered.name registered).get? name = some c :=
      (Table.get?_eq_some_iff _ _ _).mpr hmem
    rw [Table.get?_insert] at hget
    split at hget
    · rename_i hname
      rw [← Option.some.inj hget, hname]
    · exact h name c ((Table.get?_eq_some_iff _ _ _).mp hget)
  | unregister removed => exact fun name c hmem => h name c (List.mem_of_mem_filter hmem)
  | enable => exact h
  | disable => exact h

theorem Labelled.after {r : Registry} (h : r.Labelled) (changes : List Change) : (r.after changes).Labelled := by
  induction changes generalizing r with
  | nil => exact h
  | cons step changes ih => exact ih (h.change step)

theorem Built.labelled {r : Registry} (h : r.Built) : r.Labelled := by
  obtain ⟨changes, rfl⟩ := h
  exact labelled_empty.after changes

theorem Labelled.name_of_find? {r : Registry} (h : r.Labelled) {name : String} {c : Checker}
    (hfind : r.find? name = some c) : c.name = name :=
  h name c ((Table.get?_eq_some_iff _ _ _).mp hfind)

theorem Labelled.names_all {r : Registry} (h : r.Labelled) : r.all.map Checker.name = r.checkers.keys := by
  rw [all, Table.values, List.map_map]
  exact List.map_congr_left fun e he => h e.1 e.2 he

theorem Labelled.names_enabled {r : Registry} (h : r.Labelled) :
    r.enabled.map Checker.name = r.checkers.keys.filter (· ∉ r.disabled) := by
  rw [enabled, List.map_map, Table.keys, List.filter_map]
  exact List.map_congr_left fun e he => h e.1 e.2 (List.mem_of_mem_filter he)

theorem Labelled.nodup_names_enabled {r : Registry} (h : r.Labelled) : (r.enabled.map Checker.name).Nodup := by
  rw [h.names_enabled]
  exact r.checkers.nodup_keys.filter _

end Registry

/-! ### Selections -/

namespace Runner

variable {r : Runner} {names : Option (List String)}

/-- A selection that takes no checker twice: among the names there is no known one that is repeated. -/
def SelectsOnce (r : Runner) : Option (List String) → Prop
  | none => True
  | some chosen => (chosen.filter fun name => (r.registry.find? name).isSome).Nodup

theorem find?_of_mem_select (h : r.registry.Labelled) {c : Checker} (hc : c ∈ r.select names) :
    r.registry.find? c.name = some c := by
  cases names with
  | none =>
    obtain ⟨⟨name, c'⟩, hmem, rfl⟩ := List.mem_map.mp hc
    have hentry := List.mem_of_mem_filter hmem
    rw [h name c' hentry]
    exact (Table.get?_eq_some_iff _ _ _).mpr hentry
  | some chosen =>
    obtain ⟨name, -, hfind⟩ := List.mem_filterMap.mp hc
    rw [h.name_of_find? hfind]
    exact hfind

/-- A name stands for one checker only. -/
theorem eq_of_mem_select (h : r.registry.Labelled) {c c' : Checker} (hc : c ∈ r.select names)
    (hc' : c' ∈ r.select names) (hname : c.name = c'.name) : c = c' := by
  have hfind := find?_of_mem_select h hc
  rw [hname, find?_of_mem_select h hc'] at hfind
  exact (Option.some.inj hfind).symm

/-- Known checkers are selected by their names. -/
theorem select_names {cs : List Checker} (h : ∀ c ∈ cs, r.registry.find? c.name = some c) :
    r.select (some (cs.map Checker.name)) = cs := by
  rw [select]
  induction cs with
  | nil => rfl
  | cons c cs ih =>
    rw [List.map_cons, List.filterMap_cons_some (h c List.mem_cons_self),
      ih fun c' hc' => h c' (List.mem_cons_of_mem _ hc')]

theorem names_select_some (h : r.registry.Labelled) (chosen : List String) :
    (r.select (some chosen)).map Checker.name = chosen.filter fun name => (r.registry.find? name).isSome := by
  rw [select]
  induction chosen with
  | nil => rfl
  | cons name chosen ih =>
    cases hfind : r.registry.find? name with
    | none => rw [List.filterMap_cons_none hfind, ih, List.filter_cons_of_neg (by simp [hfind])]
    | some c =>
      rw [List.filterMap_cons_some hfind, List.map_cons, ih, List.filter_cons_of_pos (by simp [hfind]),
        h.name_of_find? hfind]

theorem nodup_names_select_iff (h : r.registry.Labelled) (names : Option (List String)) :
    ((r.select names).map Checker.name).Nodup ↔ r.SelectsOnce names := by
  cases names with
  | none => exact iff_of_true h.nodup_names_enabled trivial
  | some chosen => rw [names_select_some h, SelectsOnce]

end Runner

end Mediation
