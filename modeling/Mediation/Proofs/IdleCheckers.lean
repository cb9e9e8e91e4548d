import Mathlib.Data.List.Basic
import Mediation.Proofs.DispatchCalls
import Mediation.Proofs.Suite
import Mediation.Runner

/-!
# Checkers that switch themselves off

Four checkers of the suite switch themselves off in programs without the parts of the library that they are about. This
saves the work of looking at items and nothing else: on every item they would find nothing. A run in which they look at
all items nevertheless gives the same report.
-/

namespace Mediation

/-! ### When a checker switches itself off -/

namespace Program

/-- A program that declares some interface that gives a role. -/
def DeclaresMarker (p : Program) : Prop := ∃ m ∈ Library.markers, ∃ d ∈ p.types, d.key = m.key

theorem hasMarkers_catalog_iff (p : Program) : p.catalog.hasMarkers = true ↔ p.DeclaresMarker := by
  rw [Catalog.hasMarkers, Bool.not_eq_true', List.isEmpty_eq_false_iff_exists_mem]
  apply exists_congr
  intro m
  exact p.mem_markers_catalog m

/-- Whether a program lacks what the checker of a name is about: marker interfaces, or one of the dispatcher types. -/
def LeavesIdle (p : Program) (name : String) : Prop :=
  name ∈ ["naming-convention", "handler-declaration", "handler-call"] ∧ ¬ p.DeclaresMarker
    ∨ name = "parameter-usage" ∧ ¬ p.DeclaresDispatcher

theorem leavesIdle_iff_of_mem (p : Program) {name : String}
    (hname : name ∈ ["naming-convention", "handler-declaration", "handler-call"]) :
    p.LeavesIdle name ↔ ¬ p.DeclaresMarker := by
  have hne : name ≠ "parameter-usage" := by
    revert name
    decide
  rw [LeavesIdle, and_iff_right hname, or_iff_left fun h => hne h.1]

theorem leavesIdle_dispatch_iff (p : Program) : p.LeavesIdle Dispatch.checkerName ↔ ¬ p.DeclaresDispatcher := by
  have hnot : Dispatch.checkerName ∉ ["naming-convention", "handler-declaration", "handler-call"] := by decide
  rw [LeavesIdle, or_iff_right fun h => hnot h.1]
  exact and_iff_right rfl

theorem not_leavesIdle_registration (p : Program) : ¬ p.LeavesIdle Registration.checkerName := by
  rintro (⟨hname, -⟩ | ⟨hname, -⟩)
  · exact absurd hname (by decide)
  · exact absurd hname (by decide)

end Program

/-! ### Checkers that are not switched off -/

namespace Checker

/-- A checker that finds nothing on any item. -/
def FindsNothing (c : Checker) (context : Context) : Prop :=
  match c.subject with
  | .declarations inspect => ∀ d, inspect context d = .ok []
  | .invocations inspect => ∀ call, inspect context call = .ok []

/-- A checker that looks at every item whether it applies or not. -/
def persistent (c : Checker) : Checker := { c with applies := fun _ => true }

theorem findings_persistent_of_applies {c : Checker} {context : Context} (h : c.applies context.catalog = true)
    (workers : Int) : c.persistent.findings workers context = c.findings workers context := by
  have hevidence : c.persistent.evidence workers context = c.evidence workers context := by
    rw [evidence, evidence, h]
    rfl
  rw [findings, findings, hevidence]
  rfl

/-- A checker that never fails and is idle where it does not apply may as well look at every item. -/
theorem Dependable.findings_persistent {c : Checker} (h : c.Dependable) (workers : Int) (context : Context) :
    c.persistent.findings workers context = c.findings workers context := by
  have hplain : c.persistent.Plain := ⟨h.prepare_eq, h.correlate_eq⟩
  rw [hplain.findings_eq, h.findings_eq]
  exact h.visit_eq workers context

end Checker

namespace Table

variable {κ ν μ : Type}

/-- The table with other values at the same keys. -/
def mapValues (f : ν → μ) (t : Table κ ν) : Table κ μ where
  entries := t.entries.map fun e => (e.1, f e.2)
  nodup := by
    rw [List.map_map]
    exact t.nodup

theorem get?_mapValues [DecidableEq κ] (f : ν → μ) (t : Table κ ν) (k : κ) :
    (t.mapValues f).get? k = (t.get? k).map f := by
  show lookup k (t.entries.map fun e => (e.1, f e.2)) = (lookup k t.entries).map f
  induction t.entries with
  | nil => rfl
  | cons e es ih =>
    rw [List.map_cons, lookup, lookup, ih]
    split <;> rfl

end Table

namespace Registry

/-- The registry of the same checkers, none of which is switched off. -/
def persistent (r : Registry) : Registry := { r with checkers := r.checkers.mapValues Checker.persistent }

theorem enabled_persistent (r : Registry) : r.persistent.enabled = r.enabled.map Checker.persistent := by
  simp only [enabled, persistent, Table.mapValues, List.filter_map, List.map_map]
  rfl

theorem find?_persistent (r : Registry) (name : String) :
    r.persistent.find? name = (r.find? name).map Checker.persistent :=
  Table.get?_mapValues Checker.persistent r.checkers name

variable {c : Checker}

theorem applies_eq_false_iff_of_mem_suite (hc : c ∈ suite) (p : Program) :
    c.applies p.catalog = false ↔ p.LeavesIdle c.name := by
  have hmarkers : p.catalog.hasMarkers = false ↔ ¬ p.DeclaresMarker := by
    rw [← p.hasMarkers_catalog_iff, Bool.not_eq_true]
  have hdispatcher : p.catalog.hasDispatcher = false ↔ ¬ p.DeclaresDispatcher := by
    rw [← p.hasDispatcher_catalog_iff, Bool.not_eq_true]
  simp only [suite, List.mem_cons, List.not_mem_nil, or_false] at hc
  rcases hc with rfl | rfl | rfl | rfl | rfl
  · exact hmarkers.trans (p.leavesIdle_iff_of_mem (by decide)).symm
  · exact hdispatcher.trans p.leavesIdle_dispatch_iff.symm
  · exact iff_of_false Bool.true_eq_false.mp p.not_leavesIdle_registration
  · exact hmarkers.trans (p.leavesIdle_iff_of_mem (by decide)).symm
  · exact hmarkers.trans (p.leavesIdle_iff_of_mem (by decide)).symm

theorem findsNothing_of_mem_suite (hc : c ∈ suite) {context : Context} (h : c.applies context.catalog = false) :
    c.FindsNothing context := by
  simp only [suite, List.mem_cons, List.not_mem_nil, or_false] at hc
  rcases hc with rfl | rfl | rfl | rfl | rfl
  · exact fun d => congrArg Except.ok (Naming.inspect_eq_nil h d)
  · exact fun call => congrArg Except.ok (Dispatch.inspect_eq_nil h call)
  · cases h
  · exact fun d => congrArg Except.ok (HandlerDeclaration.inspect_eq_nil h d)
  · exact fun call => congrArg Except.ok (HandlerCall.inspect_eq_nil h call)

end Registry

/-! ### Runs -/

namespace Runner

/-- The runner with the same checkers, none of which is switched off. -/
def persistent (r : Runner) : Runner := { r with registry := r.registry.persistent }

theorem select_persistent (r : Runner) (names : Option (List String)) :
    r.persistent.select names = (r.select names).map Checker.persistent := by
  cases names with
  | none => exact r.registry.enabled_persistent
  | some names =>
    rw [select, select, List.map_filterMap]
    exact congrArg (List.filterMap · names) (funext r.registry.find?_persistent)

theorem outcome_persistent {r : Runner} {c : Checker} {context : Context}
    (h : c.persistent.findings r.workers context = c.findings r.workers context) :
    r.persistent.outcome context c.persistent = r.outcome context c := by
  have hworkers : r.persistent.workers = r.workers := rfl
  rw [outcome, outcome, hworkers, h]
  cases c.findings r.workers context <;> rfl

variable {r : Runner} {p : Program} {names : Option (List String)}

/-- Checkers from outside the suite may stand beside those of it, as long as they do not switch themselves off. -/
theorem runTimed_persistent (h : ∀ c ∈ r.select names, c.applies p.catalog = false → c ∈ Registry.suite)
    (elapsed : String → Amount) : r.persistent.runTimed elapsed p names = r.runTimed elapsed p names := by
  have houtcome : ∀ c ∈ r.select names,
      r.persistent.outcome (.ofProgram p) c.persistent = r.outcome (.ofProgram p) c := by
    intro c hc
    apply outcome_persistent
    cases happlies : c.applies p.catalog with
    | true => exact Checker.findings_persistent_of_applies happlies r.workers
    | false => exact (Registry.dependable_of_mem_suite (h c hc happlies)).findings_persistent r.workers _
  rw [runTimed, runTimed, select_persistent, List.foldl_map]
  apply List.foldl_ext
  intro report c hc
  rw [houtcome c hc]
  rfl

/-- Switching off saves work and changes nothing. A checker of the suite does so exactly in the programs that lack what
it is about, and whatever item it were shown there, it would find nothing. So a run in which every checker looks at all
items gives the same report, also if checkers from outside the suite take part that do not switch themselves off. -/
theorem switching_off_unnoticed (p : Program) :
    (∀ c ∈ Registry.suite, c.applies p.catalog = false ↔ p.LeavesIdle c.name)
      ∧ (∀ c ∈ Registry.suite, c.applies p.catalog = false → c.FindsNothing (.ofProgram p))
      ∧ ∀ (r : Runner) (names : Option (List String)),
        (∀ c ∈ r.select names, c.applies p.catalog = false → c ∈ Registry.suite) →
          ∀ elapsed, r.persistent.runTimed elapsed p names = r.runTimed elapsed p names := by
  refine ⟨?_, ?_, ?_⟩
  · intro c hc
    exact Registry.applies_eq_false_iff_of_mem_suite hc p
  · intro c hc happlies
    exact Registry.findsNothing_of_mem_suite hc happlies
  · intro r names hself
    exact runTimed_persistent hself

/-- A program with a call of the dispatcher that breaks all its rules, but without the type of its publishing part. -/
def partialLibrary : Program where
  types := ["Mediator", "IMediator", "ISender"].map fun name =>
    { name, scope := "MediatR", assembly := "MediatR", inSource := false }
  invocations := [Dispatch.sampleCall true true true]

theorem switching_off_unnoticed_partialLibrary :
    Dispatch.checker.applies partialLibrary.catalog = false
      ∧ Dispatch.checker.FindsNothing (.ofProgram partialLibrary)
      ∧ ({} : Runner).persistent.run partialLibrary none = ({} : Runner).run partialLibrary none := by
  have happlies : Dispatch.checker.applies partialLibrary.catalog = false := by decide +kernel
  have h := switching_off_unnoticed partialLibrary
  refine ⟨happlies, h.2.1 _ (by simp [Registry.suite]) happlies, h.2.2 {} none ?_ noTime⟩
  intro c hc _
  exact hc

end Runner

end Mediation
