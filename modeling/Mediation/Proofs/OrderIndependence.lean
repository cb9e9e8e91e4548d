import Mathlib.Data.List.Sort
import Mediation.Proofs.OnePass
import Mediation.Proofs.Reordering

/-!
# Findings do not depend on the order of a program

In two programs that differ by order only, every checker of the suite finds the same on corresponding declarations and
on the same calls. So a run reports the same findings, and since they are sorted by span and rule the reports agree
there place by place; only findings with the same span and rule may change places.
-/

namespace Mediation

variable {p p' : Program}

/-! ### Checkers of declarations -/

section Declarations

variable {d d' : TypeDecl}

theorem Naming.inspect_reordered (h : p.Reordered p') (hkeys : (p.types.map TypeDecl.key).Nodup)
    (hmem : d ∈ p.types) (hmem' : d' ∈ p'.types) (hd : d.Reordered d') :
    Naming.inspect (.ofProgram p) d = Naming.inspect (.ofProgram p') d' := by
  have hclassify := h.classify_eq hkeys hd hmem hmem'
  have hlength := (h.handlerRolesOf_perm hkeys hd hmem hmem').length_eq
  rw [Naming.inspect, Naming.inspect, hclassify, hlength]
  obtain ⟨interfaces, -, rfl⟩ := hd
  rfl

theorem HandlerDeclaration.sortedLabels_eq_of_perm {roles roles' : List Role} (h : roles.Perm roles') :
    sortedLabels roles = sortedLabels roles' := by
  have hsorted : ∀ labels : List String, (labels.mergeSort fun a b => a ≤ b).Pairwise (· ≤ ·) :=
    fun labels => List.pairwise_mergeSort' (· ≤ ·) labels
  have hperm : (sortedLabels roles).Perm (sortedLabels roles') :=
    ((List.mergeSort_perm _ _).trans (h.map Role.label)).trans (List.mergeSort_perm _ _).symm
  exact hperm.eq_of_pairwise (fun a b _ _ => le_antisymm) (hsorted _) (hsorted _)

theorem HandlerDeclaration.inspect_reordered (h : p.Reordered p') (hkeys : (p.types.map TypeDecl.key).Nodup)
    (hmem : d ∈ p.types) (hmem' : d' ∈ p'.types) (hd : d.Reordered d') :
    HandlerDeclaration.inspect (.ofProgram p) d = HandlerDeclaration.inspect (.ofProgram p') d' := by
  have hperm := h.handlerRolesOf_perm hkeys hd hmem hmem'
  rw [HandlerDeclaration.inspect, HandlerDeclaration.inspect]
  simp only [hperm.isEmpty_eq, hperm.length_eq, sortedLabels_eq_of_perm hperm]
  obtain ⟨interfaces, -, rfl⟩ := hd
  rfl

end Declarations

/-! ### Checkers of calls -/

section Calls

theorem Dispatch.inspect_reordered (h : p.Reordered p') (call : Invocation) :
    Dispatch.inspect (.ofProgram p) call = Dispatch.inspect (.ofProgram p') call := by
  rw [Dispatch.inspect, Dispatch.inspect, Context.catalog_ofProgram, Context.catalog_ofProgram, h.catalog_eq]

theorem Registration.inspect_reordered (h : p.Reordered p') (call : Invocation) :
    Registration.inspect (.ofProgram p) call = Registration.inspect (.ofProgram p') call := by
  rw [Registration.inspect, Registration.inspect, Context.catalog_ofProgram, Context.catalog_ofProgram, h.catalog_eq]

theorem HandlerCall.isHandler_reordered (h : p.Reordered p') (hkeys : (p.types.map TypeDecl.key).Nodup)
    (r : TypeRef) : HandlerCall.isHandler (.ofProgram p) r = HandlerCall.isHandler (.ofProgram p') r := by
  rw [HandlerCall.isHandler, HandlerCall.isHandler, Context.catalog_ofProgram, Context.catalog_ofProgram,
    Context.symbols_ofProgram, Context.symbols_ofProgram, h.catalog_eq]
  rcases h.resolve_cases hkeys r with ⟨hnone, hnone'⟩ | ⟨e, e', he, he', hee'⟩
  · rw [hnone, hnone']
  · have hclassify := h.classify_eq hkeys hee' (SymbolTable.mem_of_resolve he) (SymbolTable.mem_of_resolve he')
    simp only [he, he', hclassify]

theorem HandlerCall.enclosing?_reordered (h : p.Reordered p') (hkeys : (p.types.map TypeDecl.key).Nodup)
    (call : Invocation) :
    HandlerCall.enclosing? (.ofProgram p) call = none ∧ HandlerCall.enclosing? (.ofProgram p') call = none
      ∨ ∃ e e', HandlerCall.enclosing? (.ofProgram p) call = some e
        ∧ HandlerCall.enclosing? (.ofProgram p') call = some e' ∧ e.Reordered e' := by
  rw [HandlerCall.enclosing?, HandlerCall.enclosing?]
  cases call.containingType with
  | none => exact Or.inl ⟨rfl, rfl⟩
  | some r =>
    rcases h.resolve_cases hkeys r with ⟨hnone, hnone'⟩ | ⟨e, e', he, he', hee'⟩
    · exact Or.inl ⟨by simp [hnone], by simp [hnone']⟩
    · have hclassify := h.classify_eq hkeys hee' (SymbolTable.mem_of_resolve he) (SymbolTable.mem_of_resolve he')
      cases hhandler : ((Context.ofProgram p').classify e').isHandler with
      | true => exact Or.inr ⟨e, e', by simp [he, hclassify, hhandler], by simp [he', hhandler], hee'⟩
      | false => exact Or.inl ⟨by simp [he, hclassify, hhandler], by simp [he', hhandler]⟩

theorem HandlerCall.inspect_reordered (h : p.Reordered p') (hkeys : (p.types.map TypeDecl.key).Nodup)
    (call : Invocation) :
    HandlerCall.inspect (.ofProgram p) call = HandlerCall.inspect (.ofProgram p') call := by
  simp only [HandlerCall.inspect, isHandler_reordered h hkeys]
  rcases enclosing?_reordered h hkeys call with ⟨hnone, hnone'⟩ | ⟨e, e', he, he', hee'⟩
  · rw [hnone, hnone']
  · rw [he, he']
    obtain ⟨interfaces, -, rfl⟩ := hee'
    rfl

end Calls

/-! ### Whole checkers -/

namespace Checker

variable {c : Checker}

theorem rawFindings_perm_of_declarations (inspect : Context → TypeDecl → List Diagnostic)
    (hsubject : c.subject = .declarations fun context d => .ok (inspect context d)) (h : p.Reordered p')
    (hinspect : ∀ d ∈ p.types, ∀ d' ∈ p'.types, d.Reordered d' →
      inspect (.ofProgram p) d = inspect (.ofProgram p') d') :
    (c.rawFindings (.ofProgram p)).Perm (c.rawFindings (.ofProgram p')) := by
  have hsource : Matched TypeDecl.Reordered p.sourceTypes p'.sourceTypes := by
    apply h.types.filter
    rintro d d' ⟨interfaces, -, rfl⟩
    rfl
  rw [rawFindings, rawFindings, hsubject]
  apply hsource.flatMap_perm
  intro d hd d' hd' hdd'
  have hsame := hinspect d (List.mem_filter.mp hd).1 d' (List.mem_filter.mp hd').1 hdd'
  simp only [hsame]

theorem rawFindings_perm_of_invocations (inspect : Context → Invocation → List Diagnostic)
    (hsubject : c.subject = .invocations fun context call => .ok (inspect context call)) (h : p.Reordered p')
    (hinspect : ∀ call, inspect (.ofProgram p) call = inspect (.ofProgram p') call) :
    (c.rawFindings (.ofProgram p)).Perm (c.rawFindings (.ofProgram p')) := by
  rw [rawFindings, rawFindings, hsubject]
  simp only [hinspect]
  exact h.invocations.flatMap_right _

end Checker

theorem Registry.rawFindings_perm {c : Checker} (hc : c ∈ suite) (h : p.Reordered p')
    (hkeys : (p.types.map TypeDecl.key).Nodup) :
    (c.rawFindings (.ofProgram p)).Perm (c.rawFindings (.ofProgram p')) := by
  simp only [suite, List.mem_cons, List.not_mem_nil, or_false] at hc
  rcases hc with rfl | rfl | rfl | rfl | rfl
  · exact Checker.rawFindings_perm_of_declarations Naming.inspect rfl h
      fun _ hd _ hd' hdd' => Naming.inspect_reordered h hkeys hd hd' hdd'
  · exact Checker.rawFindings_perm_of_invocations Dispatch.inspect rfl h (Dispatch.inspect_reordered h)
  · exact Checker.rawFindings_perm_of_invocations Registration.inspect rfl h (Registration.inspect_reordered h)
  · exact Checker.rawFindings_perm_of_declarations HandlerDeclaration.inspect rfl h
      fun _ hd _ hd' hdd' => HandlerDeclaration.inspect_reordered h hkeys hd hd' hdd'
  · exact Checker.rawFindings_perm_of_invocations HandlerCall.inspect rfl h (HandlerCall.inspect_reordered h hkeys)

/-! ### Whole runs -/

namespace Runner

theorem dropped_reordered (r : Runner) (h : p.Reordered p') (d : Diagnostic) : r.dropped p d = r.dropped p' d := by
  rw [dropped, dropped, Suppressions.isSuppressed_addMarks_perm _ h.suppressions]

theorem onePass_perm (r : Runner) (names : Option (List String)) (h : p.Reordered p')
    (hkeys : (p.types.map TypeDecl.key).Nodup) (hsuite : ∀ c ∈ r.select names, c ∈ Registry.suite) :
    (r.onePass p names).Perm (r.onePass p' names) := by
  have hraw : ((r.select names).flatMap fun c => c.rawFindings (.ofProgram p)).Perm
      ((r.select names).flatMap fun c => c.rawFindings (.ofProgram p')) :=
    List.Perm.flatMap_left _ fun c hc => Registry.rawFindings_perm (hsuite c hc) h hkeys
  rw [onePass, onePass]
  simp only [r.dropped_reordered h]
  exact (hraw.map r.rated).filter _

/-- Reordering a program neither adds nor removes findings, and moves one only among those with its span and rule. -/
theorem diagnostics_run_reordered (r : Runner) (names : Option (List String)) (h : p.Reordered p')
    (hkeys : (p.types.map TypeDecl.key).Nodup) (hsuite : ∀ c ∈ r.select names, c ∈ Registry.suite) :
    (r.run p names).diagnostics.Perm (r.run p' names).diagnostics
      ∧ ((r.run p names).diagnostics.map fun d => (d.span, d.ruleId))
        = (r.run p' names).diagnostics.map fun d => (d.span, d.ruleId) := by
  have hperm := r.onePass_perm names h hkeys hsuite
  rw [diagnostics_run_eq_sort r p names hsuite, diagnostics_run_eq_sort r p' names hsuite]
  constructor
  · exact ((Diagnostic.sort_perm _).trans hperm).trans (Diagnostic.sort_perm _).symm
  · exact Diagnostic.map_place_sort_of_perm hperm

/-- An imported interface that gives a handler role. -/
def handlerMarker (name : String) : TypeDecl where
  name
  scope := "MediatR"
  assembly := "MediatR"
  kind := .interfaceType
  typeParameters := ["TMessage"]
  inSource := false

/-- A public handler with interfaces, or with those of another handler. -/
def publicHandler (name : String) (interfaces : List String) (base : Option String) : TypeDecl where
  name
  accessibility := .publicAccess
  baseType := base.map fun name => { name }
  interfaces := interfaces.map fun name =>
    { name, scope := "MediatR", assembly := "MediatR", arguments := [{ name := "Ping" }] }
  span := { file := "A.cs", startLine := 7 }

/-- A call of one handler in the body of another. -/
def handlerCall (caller callee : String) : Invocation where
  target := { name := "Handle", containingType := { name := callee } }
  span := { file := "B.cs", startLine := 2 }
  containingType := some { name := caller }

/-- Two handlers of two families at one place, which call each other. -/
def handlersInOrder : Program where
  types := [handlerMarker "IRequestHandler", handlerMarker "INotificationHandler",
    publicHandler "Alpha" ["IRequestHandler", "INotificationHandler"] none, publicHandler "Beta" [] (some "Alpha")]
  invocations := [handlerCall "Alpha" "Beta", handlerCall "Beta" "Alpha"]
  suppressions := [{ ruleId := "GMDTR10" }, { ruleId := "GMDTR13", file := "C.cs", line := 1 }]

/-- The same in the opposite order. -/
def handlersReversed : Program where
  types := [publicHandler "Beta" [] (some "Alpha"),
    publicHandler "Alpha" ["INotificationHandler", "IRequestHandler"] none, handlerMarker "INotificationHandler",
    handlerMarker "IRequestHandler"]
  invocations := [handlerCall "Beta" "Alpha", handlerCall "Alpha" "Beta"]
  suppressions := [{ ruleId := "GMDTR13", file := "C.cs", line := 1 }, { ruleId := "GMDTR10" }]

theorem handlersInOrder_reordered : handlersInOrder.Reordered handlersReversed where
  types := by
    refine ⟨[handlerMarker "IRequestHandler", handlerMarker "INotificationHandler",
      publicHandler "Alpha" ["INotificationHandler", "IRequestHandler"] none,
      publicHandler "Beta" [] (some "Alpha")], ?_, by decide⟩
    refine .cons ⟨[], .nil, rfl⟩ (.cons ⟨[], .nil, rfl⟩ (.cons ?_ (.cons ⟨[], .nil, rfl⟩ .nil)))
    exact ⟨_, List.Perm.swap _ _ [], rfl⟩
  invocations := by decide
  suppressions := by decide

theorem diagnostics_run_reordered_handlers :
    handlersInOrder.Reordered handlersReversed
      ∧ (handlersInOrder.types.map TypeDecl.key).Nodup
      ∧ (∀ c ∈ ({} : Runner).select none, c ∈ Registry.suite)
      ∧ (({} : Runner).onePass handlersReversed none).map Diagnostic.message
        = ["'Beta' implements several handler interfaces and should end with 'Handler'",
          "'Alpha' implements several handler interfaces and should end with 'Handler'",
          "'Beta' should not call the handler 'Alpha' directly, use the mediator instead",
          "'Alpha' should not call the handler 'Beta' directly, use the mediator instead"]
      ∧ (({} : Runner).run handlersInOrder none).diagnostics.Perm (({} : Runner).run handlersReversed none).diagnostics
      ∧ ((({} : Runner).run handlersInOrder none).diagnostics.map fun d => (d.span, d.ruleId))
        = (({} : Runner).run handlersReversed none).diagnostics.map fun d => (d.span, d.ruleId) := by
  have hkeys : (handlersInOrder.types.map TypeDecl.key).Nodup := by decide +kernel
  have hsuite : ∀ c ∈ ({} : Runner).select none, c ∈ Registry.suite := fun c hc => hc
  exact ⟨handlersInOrder_reordered, hkeys, hsuite, by decide +kernel,
    diagnostics_run_reordered {} none handlersInOrder_reordered hkeys hsuite⟩

end Runner

end Mediation
