import Mathlib.Data.List.Basic
import Mediation.Proofs.Suite
import Mediation.Runner

/-!
# The rules of the suite

Which checkers a selection takes from the suite, and what they report: every finding is that of a rule which its
checker declares, under the name of the checker and at the item on which it was found, and its message has all its
arguments. None of these rules is an error by itself, so errors come from configurations only.
-/

namespace Mediation

/-! ### Selections -/

namespace Registry

theorem entries_standard : standard.checkers.entries = suite.map fun c => (c.name, c) := rfl

theorem enabled_standard : standard.enabled = suite := rfl

theorem find?_standard_eq_some_iff (name : String) (c : Checker) :
    standard.find? name = some c ↔ c ∈ suite ∧ c.name = name := by
  rw [find?, Table.get?_eq_some_iff, entries_standard, List.mem_map]
  constructor
  · rintro ⟨c', hmem, heq⟩
    obtain ⟨rfl, rfl⟩ := Prod.mk.inj heq
    exact ⟨hmem, rfl⟩
  · rintro ⟨hmem, rfl⟩
    exact ⟨c, hmem, rfl⟩

end Registry

/-- A selection takes the checkers of the suite that it names, or all of them. -/
theorem Runner.mem_select_iff {r : Runner} (hregistry : r.registry = .standard) (names : Option (List String))
    (c : Checker) : c ∈ r.select names ↔ c ∈ Registry.suite ∧ ∀ chosen, names = some chosen → c.name ∈ chosen := by
  cases names with
  | none => simp [select, hregistry, Registry.enabled_standard]
  | some chosen =>
    simp only [select, hregistry, List.mem_filterMap, Registry.find?_standard_eq_some_iff, Option.some.injEq,
      forall_eq']
    constructor
    · rintro ⟨name, hname, hc, rfl⟩
      exact ⟨hc, hname⟩
    · rintro ⟨hc, hname⟩
      exact ⟨c.name, hname, hc, rfl⟩

/-! ### What checkers report -/

theorem Diagnostic.create_eq_ok {rule : Rule} {arguments : List String} (h : rule.format.missing? arguments = none)
    (span : Span) (checker : String) (extra : List (String × Json)) :
    create rule span arguments checker extra = .ok (ofRule rule span arguments checker extra) := by
  rw [create, h]

theorem Diagnostic.eq_ofRule_of_create {rule : Rule} {span : Span} {arguments : List String} {checker : String}
    {extra : List (String × Json)} {d : Diagnostic} (h : create rule span arguments checker extra = .ok d) :
    rule.format.missing? arguments = none ∧ d = ofRule rule span arguments checker extra := by
  rw [create] at h
  split at h
  · cases h
  · rename_i hmissing
    exact ⟨hmissing, (Except.ok.inj h).symm⟩

namespace Checker

/-- The places of the items that a checker looks at. -/
def places (c : Checker) (p : Program) : List Span :=
  match c.subject with
  | .declarations _ => p.sourceTypes.map TypeDecl.span
  | .invocations _ => p.invocations.map Invocation.span

/-- A finding at a place, of one of the rules of a checker and under its name, whose message lacks no argument. -/
def ReportsAt (c : Checker) (span : Span) (d : Diagnostic) : Prop :=
  ∃ rule ∈ c.rules, ∃ arguments extra, Diagnostic.create rule span arguments c.name extra = .ok d

/-- A checker that reports nothing but findings of its own rules, at the items on which it found them. -/
def Accurate (c : Checker) : Prop :=
  ∀ context, ∀ d ∈ c.rawFindings context, ∃ span ∈ c.places context.program, c.ReportsAt span d

theorem accurate_of_declarations {c : Checker} (inspect : Context → TypeDecl → List Diagnostic)
    (hsubject : c.subject = .declarations fun context d => .ok (inspect context d))
    (hinspect : ∀ context decl, ∀ d ∈ inspect context decl, c.ReportsAt decl.span d) : c.Accurate := by
  intro context d hd
  simp only [rawFindings, hsubject, Except.toOption, Option.getD_some, List.mem_flatMap] at hd
  obtain ⟨decl, hdecl, hd⟩ := hd
  refine ⟨decl.span, ?_, hinspect context decl d hd⟩
  rw [places, hsubject]
  exact List.mem_map_of_mem hdecl

theorem accurate_of_invocations {c : Checker} (inspect : Context → Invocation → List Diagnostic)
    (hsubject : c.subject = .invocations fun context call => .ok (inspect context call))
    (hinspect : ∀ context call, ∀ d ∈ inspect context call, c.ReportsAt call.span d) : c.Accurate := by
  intro context d hd
  simp only [rawFindings, hsubject, Except.toOption, Option.getD_some, List.mem_flatMap] at hd
  obtain ⟨call, hcall, hd⟩ := hd
  refine ⟨call.span, ?_, hinspect context call d hd⟩
  rw [places, hsubject]
  exact List.mem_map_of_mem hcall

end Checker

theorem Naming.rule_mem_of_violation? {d : TypeDecl} {role : Role} {rule : Rule}
    (h : Naming.violation? d role = some rule) : rule ∈ Naming.checker.rules := by
  simp only [Naming.violation?, Option.bind_eq_bind, Option.bind_eq_some_iff] at h
  obtain ⟨suffixRule, hsuffix, h⟩ := h
  split at h
  · simp at h
  · obtain rfl := Option.some.inj h
    cases role <;> simp [Role.suffixRule?] at hsuffix <;> subst hsuffix <;> simp [Naming.checker]

theorem Naming.missing?_eq_none {rule : Rule} (h : rule ∈ Naming.checker.rules) (name : String) :
    rule.format.missing? [name] = none := by
  simp only [Naming.checker, List.mem_cons, List.not_mem_nil, or_false] at h
  rcases h with rfl | rfl | rfl | rfl | rfl | rfl <;> rfl

theorem Naming.reportsAt_of_mem_inspect (context : Context) (decl : TypeDecl) (d : Diagnostic)
    (hd : d ∈ Naming.inspect context decl) : Naming.checker.ReportsAt decl.span d := by
  simp only [Naming.inspect] at hd
  split at hd
  · simp at hd
  · obtain ⟨rule, hrule, rfl⟩ := List.mem_map.mp hd
    have hmem := Naming.rule_mem_of_violation? (Option.mem_toList.mp hrule)
    exact ⟨rule, hmem, _, _, Diagnostic.create_eq_ok (Naming.missing?_eq_none hmem decl.name) _ _ _⟩

theorem Dispatch.rule_mem_of_mem_rules {f : DispatchFinding} {rule : Rule} (h : rule ∈ f.rules) :
    rule ∈ Dispatch.checker.rules := by
  simp only [DispatchFinding.rules, List.mem_append] at h
  rcases h with (h | h) | h <;> split at h <;> simp_all [Dispatch.checker]

theorem Dispatch.missing?_eq_none {rule : Rule} (h : rule ∈ Dispatch.checker.rules) :
    rule.format.missing? [] = none := by
  simp only [Dispatch.checker, List.mem_cons, List.not_mem_nil, or_false] at h
  rcases h with rfl | rfl | rfl <;> rfl

theorem Dispatch.span_of_inspect? {catalog : Catalog} {call : Invocation} {f : DispatchFinding}
    (h : Dispatch.inspect? catalog call = some f) : f.span = call.span := by
  rw [Dispatch.inspect?] at h
  split at h
  · rw [← Option.some.inj h]
  · cases h

theorem Dispatch.reportsAt_of_mem_inspect (context : Context) (call : Invocation) (d : Diagnostic)
    (hd : d ∈ Dispatch.inspect context call) : Dispatch.checker.ReportsAt call.span d := by
  rw [Dispatch.inspect] at hd
  split at hd
  · simp at hd
  · rename_i f hfound
    obtain ⟨rule, hrule, rfl⟩ := List.mem_map.mp hd
    have hmem := Dispatch.rule_mem_of_mem_rules hrule
    rw [Dispatch.span_of_inspect? hfound]
    exact ⟨rule, hmem, _, _, Diagnostic.create_eq_ok (Dispatch.missing?_eq_none hmem) _ _ _⟩

theorem Registration.reportsAt_of_mem_inspect (context : Context) (call : Invocation) (d : Diagnostic)
    (hd : d ∈ Registration.inspect context call) : Registration.checker.ReportsAt call.span d := by
  rw [Registration.inspect] at hd
  split at hd
  · obtain rfl := List.mem_singleton.mp hd
    exact ⟨.registrationCall, List.mem_cons_self, _, _, Diagnostic.create_eq_ok rfl _ _ _⟩
  · simp at hd

theorem HandlerDeclaration.reportsAt_of_mem_inspect (context : Context) (decl : TypeDecl) (d : Diagnostic)
    (hd : d ∈ HandlerDeclaration.inspect context decl) : HandlerDeclaration.checker.ReportsAt decl.span d := by
  simp only [HandlerDeclaration.inspect] at hd
  split at hd
  · simp at hd
  · rcases List.mem_append.mp hd with hd | hd
    · split at hd
      · obtain rfl := List.mem_singleton.mp hd
        exact ⟨.publicHandler, List.mem_cons_self, _, _, Diagnostic.create_eq_ok rfl _ _ _⟩
      · simp at hd
    · split at hd
      · obtain rfl := List.mem_singleton.mp hd
        exact ⟨.mixedHandlerName, List.mem_cons_of_mem _ List.mem_cons_self, _, _,
          Diagnostic.create_eq_ok rfl _ _ _⟩
      · simp at hd

theorem HandlerCall.reportsAt_of_mem_inspect (context : Context) (call : Invocation) (d : Diagnostic)
    (hd : d ∈ HandlerCall.inspect context call) : HandlerCall.checker.ReportsAt call.span d := by
  rw [HandlerCall.inspect] at hd
  split at hd
  · simp at hd
  · split at hd
    · simp at hd
    · dsimp only at hd
      split at hd
      · simp at hd
      · obtain rfl := List.mem_singleton.mp hd
        exact ⟨.handlerCall, List.mem_cons_self, _, _, Diagnostic.create_eq_ok rfl _ _ _⟩

namespace Registry

theorem accurate_of_mem_suite {c : Checker} (hc : c ∈ suite) : c.Accurate := by
  simp only [suite, List.mem_cons, List.not_mem_nil, or_false] at hc
  rcases hc with rfl | rfl | rfl | rfl | rfl
  · exact Checker.accurate_of_declarations Naming.inspect rfl Naming.reportsAt_of_mem_inspect
  · exact Checker.accurate_of_invocations Dispatch.inspect rfl Dispatch.reportsAt_of_mem_inspect
  · exact Checker.accurate_of_invocations Registration.inspect rfl Registration.reportsAt_of_mem_inspect
  · exact Checker.accurate_of_declarations HandlerDeclaration.inspect rfl HandlerDeclaration.reportsAt_of_mem_inspect
  · exact Checker.accurate_of_invocations HandlerCall.inspect rfl HandlerCall.reportsAt_of_mem_inspect

theorem severity_of_mem_rules {c : Checker} (hc : c ∈ suite) {rule : Rule} (hrule : rule ∈ c.rules) :
    rule.severity = .warning := by
  have hall : ∀ rules ∈ suite.map Checker.rules, ∀ rule ∈ rules, rule.severity = .warning := by decide
  exact hall c.rules (List.mem_map_of_mem hc) rule hrule

/-- No finding of the suite is an error before it is rated. -/
theorem severity_of_mem_rawFindings {c : Checker} (hc : c ∈ suite) {context : Context} {d : Diagnostic}
    (hd : d ∈ c.rawFindings context) : d.severity = .warning := by
  obtain ⟨span, -, rule, hrule, arguments, extra, hcreate⟩ := accurate_of_mem_suite hc context d hd
  obtain ⟨-, rfl⟩ := Diagnostic.eq_ofRule_of_create hcreate
  exact severity_of_mem_rules hc hrule

end Registry

end Mediation
