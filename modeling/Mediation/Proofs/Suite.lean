import Mathlib.Data.List.Basic
import Mediation.Registry

/-!
# The checkers of the suite

What sets the checkers of the suite apart from arbitrary ones: they do nothing but look at items and never fail on
one, and a checker that does not apply to a program would find nothing there. So the findings of such a checker are
those of its items one after the other, whether it was switched off or not, and however many workers shared the items.
-/

namespace Mediation

namespace Checker

/-- What a checker finds on the items of a program one after the other, whether it applies or not. An item on
which it fails contributes nothing. -/
def rawFindings (c : Checker) (context : Context) : List Diagnostic :=
  match c.subject with
  | .declarations inspect => context.program.sourceTypes.flatMap fun d => (inspect context d).toOption.getD []
  | .invocations inspect => context.program.invocations.flatMap fun call => (inspect context call).toOption.getD []

/-! ### Workers -/

/-- Results that are taken up in the order of the items are those of a single worker. -/
theorem gather_map_eq_inspectAll {α : Type} (inspect : α → Except String (List Diagnostic)) (items : List α) :
    gather (items.map inspect) = inspectAll inspect items := by
  induction items with
  | nil => rfl
  | cons item rest ih =>
    rw [List.map_cons, inspectAll, ← ih]
    cases inspect item <;> rfl

theorem inspectWith_eq_inspectAll {α : Type} (workers : Int) (inspect : α → Except String (List Diagnostic))
    (items : List α) : inspectWith workers inspect items = inspectAll inspect items := by
  rw [inspectWith, gather_map_eq_inspectAll, ite_self]

theorem inspectAll_ok {α : Type} (inspect : α → List Diagnostic) (items : List α) :
    inspectAll (fun item => .ok (inspect item)) items = .ok (items.flatMap inspect) := by
  induction items with
  | nil => rfl
  | cons item rest ih =>
    rw [inspectAll, ih]
    rfl

/-! ### Checkers that do not fail -/

/-- A checker that does nothing before it looks at items and leaves its findings as they are. -/
structure Plain (c : Checker) : Prop where
  prepare_eq : ∀ context, c.prepare context = .ok ()
  correlate_eq : ∀ context found, c.correlate context found = .ok found

theorem Plain.findings_eq {c : Checker} (h : c.Plain) (workers : Int) (context : Context) :
    c.findings workers context = c.evidence workers context := by
  rw [findings, h.prepare_eq]
  change (c.evidence workers context >>= c.correlate context) = _
  cases c.evidence workers context with
  | error cause => rfl
  | ok found => exact h.correlate_eq context found

/-- A plain checker that never fails, and that finds nothing in a program to which it does not apply. -/
structure Dependable (c : Checker) : Prop extends Plain c where
  visit_eq : ∀ workers context, c.visit workers context = .ok (c.rawFindings context)
  idle : ∀ context : Context, c.applies context.catalog = false → c.rawFindings context = []

theorem Dependable.findings_eq {c : Checker} (h : c.Dependable) (workers : Int) (context : Context) :
    c.findings workers context = .ok (c.rawFindings context) := by
  rw [h.toPlain.findings_eq, evidence]
  cases happlies : c.applies context.catalog with
  | true => exact h.visit_eq workers context
  | false => rw [h.idle context happlies]; rfl

theorem dependable_of_declarations {c : Checker} (hplain : c.Plain) (inspect : Context → TypeDecl → List Diagnostic)
    (hsubject : c.subject = .declarations fun context d => .ok (inspect context d))
    (hidle : ∀ context : Context, c.applies context.catalog = false → ∀ d, inspect context d = []) :
    c.Dependable where
  toPlain := hplain
  visit_eq workers context := by
    simp only [visit, rawFindings, hsubject, inspectWith_eq_inspectAll, inspectAll_ok]
    rfl
  idle context happlies := by
    simp [rawFindings, hsubject, hidle context happlies, Except.toOption]

theorem dependable_of_invocations {c : Checker} (hplain : c.Plain) (inspect : Context → Invocation → List Diagnostic)
    (hsubject : c.subject = .invocations fun context call => .ok (inspect context call))
    (hidle : ∀ context : Context, c.applies context.catalog = false → ∀ call, inspect context call = []) :
    c.Dependable where
  toPlain := hplain
  visit_eq workers context := by
    simp only [visit, rawFindings, hsubject, inspectWith_eq_inspectAll, inspectAll_ok]
    rfl
  idle context happlies := by
    simp [rawFindings, hsubject, hidle context happlies, Except.toOption]

end Checker

/-! ### Programs without the library -/

namespace Context

variable {c : Context}

theorem rolesOf_eq_nil (h : c.catalog.hasMarkers = false) (d : TypeDecl) : c.rolesOf d = [] := by
  rw [rolesOf, h]
  rfl

theorem classify_eq_unclassified (h : c.catalog.hasMarkers = false) (d : TypeDecl) :
    c.classify d = .unclassified := by
  rw [classify, rolesOf_eq_nil h]
  rfl

theorem handlerRolesOf_eq_nil (h : c.catalog.hasMarkers = false) (d : TypeDecl) : c.handlerRolesOf d = [] := by
  rw [handlerRolesOf, rolesOf_eq_nil h]
  rfl

end Context

theorem Naming.inspect_eq_nil {c : Context} (h : c.catalog.hasMarkers = false) (d : TypeDecl) :
    Naming.inspect c d = [] := by
  simp [Naming.inspect, Context.classify_eq_unclassified h, Naming.violation?, Role.suffixRule?, Role.isHandler]

theorem HandlerDeclaration.inspect_eq_nil {c : Context} (h : c.catalog.hasMarkers = false) (d : TypeDecl) :
    HandlerDeclaration.inspect c d = [] := by
  simp [HandlerDeclaration.inspect, Context.handlerRolesOf_eq_nil h]

theorem HandlerCall.enclosing?_eq_none {c : Context} (h : c.catalog.hasMarkers = false) (call : Invocation) :
    HandlerCall.enclosing? c call = none := by
  rw [HandlerCall.enclosing?]
  simp [Context.classify_eq_unclassified h, Role.isHandler]

theorem HandlerCall.inspect_eq_nil {c : Context} (h : c.catalog.hasMarkers = false) (call : Invocation) :
    HandlerCall.inspect c call = [] := by
  rw [HandlerCall.inspect, HandlerCall.enclosing?_eq_none h]
  simp

theorem Dispatch.inspect_eq_nil {c : Context} (h : c.catalog.hasDispatcher = false) (call : Invocation) :
    Dispatch.inspect c call = [] := by
  simp [Dispatch.inspect, Dispatch.inspect?, Dispatch.isDispatch, h]

/-! ### The suite -/

namespace Registry

theorem plain_of_mem_suite {c : Checker} (hc : c ∈ suite) : c.Plain := by
  simp only [suite, List.mem_cons, List.not_mem_nil, or_false] at hc
  rcases hc with rfl | rfl | rfl | rfl | rfl <;> exact ⟨fun _ => rfl, fun _ _ => rfl⟩

theorem dependable_of_mem_suite {c : Checker} (hc : c ∈ suite) : c.Dependable := by
  have hplain := plain_of_mem_suite hc
  simp only [suite, List.mem_cons, List.not_mem_nil, or_false] at hc
  rcases hc with rfl | rfl | rfl | rfl | rfl
  · exact Checker.dependable_of_declarations hplain Naming.inspect rfl fun _ h => Naming.inspect_eq_nil h
  · exact Checker.dependable_of_invocations hplain Dispatch.inspect rfl fun _ h => Dispatch.inspect_eq_nil h
  · exact Checker.dependable_of_invocations hplain Registration.inspect rfl fun _ h => by cases h
  · exact Checker.dependable_of_declarations hplain HandlerDeclaration.inspect rfl
      fun _ h => HandlerDeclaration.inspect_eq_nil h
  · exact Checker.dependable_of_invocations hplain HandlerCall.inspect rfl fun _ h => HandlerCall.inspect_eq_nil h

end Registry

end Mediation
