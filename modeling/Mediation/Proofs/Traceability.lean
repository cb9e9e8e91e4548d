import Mathlib.Data.List.Basic
import Mediation.Proofs.OnePass
import Mediation.Proofs.SuiteRules

/-!
# Findings can be traced to their rules and places

What a reader of a report can rely on. Each finding of the suite carries the name of the checker that produced it and
the identifier of a rule that this checker, and no other, declares. Its texts are those of the rule, and its severity is
the configured one or that of the rule. It stands at a declaration in source or at a call, as its rule is about the one
or the other. No checker of the suite fails, so no finding is about a failure.
-/

namespace Mediation

namespace Rule

/-- The rules about declarations. -/
def declarationIds : List String :=
  ["GMDTR01", "GMDTR02", "GMDTR03", "GMDTR04", "GMDTR05", "GMDTR06", "GMDTR10", "GMDTR13"]

/-- The rules about calls. -/
def callIds : List String := ["GMDTR07", "GMDTR08", "GMDTR09", "GMDTR11", "GMDTR12"]

/-- A place in a program that a rule is about: a declaration in source, or a call. -/
def IsAbout (p : Program) (id : String) (span : Span) : Prop :=
  (id ∈ declarationIds ∧ ∃ decl ∈ p.types, decl.inSource = true ∧ decl.span = span)
    ∨ (id ∈ callIds ∧ ∃ call ∈ p.invocations, call.span = span)

end Rule

/-! ### The rules of each checker -/

namespace Registry

variable {c : Checker}

theorem ofId?_of_mem_rules (hc : c ∈ suite) {rule : Rule} (hrule : rule ∈ c.rules) :
    Rule.ofId? rule.id = some rule := by
  have hall : ∀ rules ∈ suite.map Checker.rules, ∀ rule ∈ rules, Rule.ofId? rule.id = some rule := by decide
  exact hall c.rules (List.mem_map_of_mem hc) rule hrule

/-- A rule of the suite is declared by one checker only. -/
theorem withRule_standard (hc : c ∈ suite) {id : String} (hid : id ∈ c.ruleIds) : standard.withRule id = [c] := by
  simp only [suite, List.mem_cons, List.not_mem_nil, or_false] at hc
  rcases hc with rfl | rfl | rfl | rfl | rfl
  all_goals
    simp only [Checker.ruleIds, Naming.checker, Dispatch.checker, Registration.checker, HandlerDeclaration.checker,
      HandlerCall.checker, List.map_cons, List.map_nil, List.mem_cons, List.not_mem_nil, or_false] at hid
  · rcases hid with rfl | rfl | rfl | rfl | rfl | rfl <;> rfl
  · rcases hid with rfl | rfl | rfl <;> rfl
  · subst hid; rfl
  · rcases hid with rfl | rfl <;> rfl
  · subst hid; rfl

end Registry

/-! ### The places of each checker -/

namespace Checker

variable {c : Checker} {p : Program} {id : String} {span : Span}

theorem isAbout_of_declarations {inspect : Inspection TypeDecl} (hsubject : c.subject = .declarations inspect)
    (hids : ∀ id ∈ c.ruleIds, id ∈ Rule.declarationIds) (hid : id ∈ c.ruleIds) (hspan : span ∈ c.places p) :
    Rule.IsAbout p id span := by
  rw [places, hsubject] at hspan
  obtain ⟨decl, hdecl, rfl⟩ := List.mem_map.mp hspan
  obtain ⟨hmem, hsource⟩ := List.mem_filter.mp hdecl
  exact Or.inl ⟨hids id hid, decl, hmem, hsource, rfl⟩

theorem isAbout_of_invocations {inspect : Inspection Invocation} (hsubject : c.subject = .invocations inspect)
    (hids : ∀ id ∈ c.ruleIds, id ∈ Rule.callIds) (hid : id ∈ c.ruleIds) (hspan : span ∈ c.places p) :
    Rule.IsAbout p id span := by
  rw [places, hsubject] at hspan
  obtain ⟨call, hcall, rfl⟩ := List.mem_map.mp hspan
  exact Or.inr ⟨hids id hid, call, hcall, rfl⟩

end Checker

/-- A checker of the suite looks at what its rules are about. -/
theorem Registry.isAbout_of_mem_places {c : Checker} (hc : c ∈ suite) {p : Program} {id : String}
    (hid : id ∈ c.ruleIds) {span : Span} (hspan : span ∈ c.places p) : Rule.IsAbout p id span := by
  simp only [suite, List.mem_cons, List.not_mem_nil, or_false] at hc
  rcases hc with rfl | rfl | rfl | rfl | rfl
  · exact Checker.isAbout_of_declarations rfl (by decide) hid hspan
  · exact Checker.isAbout_of_invocations rfl (by decide) hid hspan
  · exact Checker.isAbout_of_invocations rfl (by decide) hid hspan
  · exact Checker.isAbout_of_declarations rfl (by decide) hid hspan
  · exact Checker.isAbout_of_invocations rfl (by decide) hid hspan

/-! ### The findings of a run -/

namespace Runner

variable (r : Runner) (p : Program) {names : Option (List String)}

/-- A finding with the texts and the severity of a rule. Its message lacks no argument. -/
structure Describes (rule : Rule) (d : Diagnostic) : Prop where
  title : d.title = rule.title
  category : d.category = rule.category
  helpUri : d.helpUri = rule.helpUri
  severity : d.severity = (r.severities.get? rule.id).getD rule.severity
  message : ∃ arguments, rule.format.missing? arguments = none ∧ d.message = rule.format.render arguments

/-- A finding in a program that leads back to a checker, to a rule and to a place. -/
structure Traces (c : Checker) (d : Diagnostic) : Prop where
  checker : d.checker = c.name
  ruleId : d.ruleId ∈ c.ruleIds
  withRule : Registry.standard.withRule d.ruleId = [c]
  rule : ∃ rule, Rule.ofId? d.ruleId = some rule ∧ r.Describes rule d
  place : Rule.IsAbout p d.ruleId d.span

variable {r p}

theorem traces_of_mem_outcome {c : Checker} (hc : c ∈ Registry.suite) {d : Diagnostic}
    (hd : d ∈ r.outcome (.ofProgram p) c) : r.Traces p c d := by
  obtain ⟨raw, hraw, rfl, -⟩ := (mem_outcome_iff (Registry.dependable_of_mem_suite hc) r _ d).mp hd
  obtain ⟨span, hspan, rule, hrule, arguments, extra, hcreate⟩ := Registry.accurate_of_mem_suite hc _ raw hraw
  obtain ⟨hmissing, rfl⟩ := Diagnostic.eq_ofRule_of_create hcreate
  have hid : rule.id ∈ c.ruleIds := List.mem_map_of_mem hrule
  exact {
    checker := rfl
    ruleId := hid
    withRule := Registry.withRule_standard hc hid
    rule := ⟨rule, Registry.ofId?_of_mem_rules hc hrule, rfl, rfl, rfl, rfl, arguments, hmissing, rfl⟩
    place := Registry.isAbout_of_mem_places hc hid hspan }

theorem Traces.ruleId_ne_failureId {c : Checker} {d : Diagnostic} (h : r.Traces p c d) : d.ruleId ≠ failureId := by
  intro hfailure
  have hnone : Rule.ofId? failureId = none := by decide
  obtain ⟨rule, hrule, -⟩ := h.rule
  rw [hfailure, hnone] at hrule
  cases hrule

/-- Every finding that a run of the suite emits is produced by a selected checker and leads back to it, to its rule and
to a declaration in source or a call. No checker fails, no finding is about a failure, and none stands at a place that
only types of a library have. -/
theorem findings_traceable (hsuite : ∀ c ∈ r.select names, c ∈ Registry.suite) :
    (∀ d ∈ (r.run p names).emitted, ∃ c ∈ r.select names, d ∈ r.outcome (.ofProgram p) c ∧ r.Traces p c d)
    ∧ (∀ c ∈ r.select names, ∀ d ∈ r.outcome (.ofProgram p) c, d ∈ (r.run p names).emitted ∧ r.Traces p c d)
    ∧ (∀ c ∈ r.select names, ∃ found, c.findings r.workers (.ofProgram p) = .ok found)
    ∧ (∀ d ∈ (r.run p names).emitted, d.ruleId ≠ failureId)
    ∧ ∀ imported ∈ p.types, imported.inSource = false →
      (∀ decl ∈ p.types, decl.inSource = true → decl.span ≠ imported.span) →
      (∀ call ∈ p.invocations, call.span ≠ imported.span) →
      ∀ d ∈ (r.run p names).emitted, d.span ≠ imported.span := by
  have htraces : ∀ c ∈ r.select names, ∀ d ∈ r.outcome (.ofProgram p) c, r.Traces p c d :=
    fun c hc d hd => traces_of_mem_outcome (hsuite c hc) hd
  have hproduced : ∀ d ∈ (r.run p names).emitted,
      ∃ c ∈ r.select names, d ∈ r.outcome (.ofProgram p) c ∧ r.Traces p c d := by
    intro d hd
    rw [emitted_run, List.mem_flatMap] at hd
    obtain ⟨c, hc, hd⟩ := hd
    exact ⟨c, hc, hd, htraces c hc d hd⟩
  refine ⟨hproduced, ?_, ?_, ?_, ?_⟩
  · intro c hc d hd
    rw [emitted_run, List.mem_flatMap]
    exact ⟨⟨c, hc, hd⟩, htraces c hc d hd⟩
  · intro c hc
    exact ⟨_, (Registry.dependable_of_mem_suite (hsuite c hc)).findings_eq r.workers (.ofProgram p)⟩
  · intro d hd
    obtain ⟨c, -, -, htrace⟩ := hproduced d hd
    exact htrace.ruleId_ne_failureId
  · intro imported _ _ hdecls hcalls d hd heq
    obtain ⟨c, -, -, htrace⟩ := hproduced d hd
    rcases htrace.place with ⟨-, decl, hdecl, hsource, hspan⟩ | ⟨-, call, hcall, hspan⟩
    · exact hdecls decl hdecl hsource (hspan.trans heq)
    · exact hcalls call hcall (hspan.trans heq)

theorem findings_traceable_sample :
    (∀ c ∈ sampleRunner.select none, c ∈ Registry.suite)
      ∧ (sampleRunner.run sampleProgram none).emitted.length = 2
      ∧ ∀ d ∈ (sampleRunner.run sampleProgram none).emitted,
        d.ruleId ≠ failureId ∧ ∃ c ∈ Registry.suite, sampleRunner.Traces sampleProgram c d := by
  have hselect : sampleRunner.select none = Registry.suite := rfl
  have hsuite : ∀ c ∈ sampleRunner.select none, c ∈ Registry.suite := fun c hc => hselect ▸ hc
  obtain ⟨hproduced, -, -, hfailure, -⟩ := findings_traceable (p := sampleProgram) hsuite
  have hlength : (sampleRunner.onePass sampleProgram none).length = 2 := by decide +kernel
  refine ⟨hsuite, (emitted_run_perm_onePass _ _ _ hsuite).length_eq.trans hlength, ?_⟩
  intro d hd
  obtain ⟨c, hc, -, htrace⟩ := hproduced d hd
  exact ⟨hfailure d hd, c, hsuite c hc, htrace⟩

end Runner

end Mediation
