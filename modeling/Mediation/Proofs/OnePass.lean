import Mediation.Proofs.DiagnosticOrder
import Mediation.Proofs.Suite
import Mediation.Proofs.SuppressionEntries
import Mediation.Runner

/-!
# A run as one pass

A run sorts the findings of each checker, rewrites their severities, drops the suppressed ones and sorts what all
checkers have left once more. One pass over the unsorted findings and a single sort at the end give the same list,
in which findings with the same span and rule stand in the order of checkers and items.
-/

namespace Mediation

namespace Runner

/-! ### One pass -/

/-- A finding with the severity that is set for its rule, if there is one. -/
def rated (r : Runner) (d : Diagnostic) : Diagnostic :=
  { d with severity := (r.severities.get? d.ruleId).getD d.severity }

/-- Whether a finding is suppressed by the runner or in the program itself. -/
def dropped (r : Runner) (p : Program) (d : Diagnostic) : Bool :=
  r.suppressions.isSuppressed d || (Suppressions.empty.addMarks p.suppressions).isSuppressed d

/-- The findings of one pass, not sorted: those of the selected checkers item by item, each with its severity, less
those that are dropped. -/
def onePass (r : Runner) (p : Program) (names : Option (List String)) : List Diagnostic :=
  (((r.select names).flatMap fun c => c.rawFindings (.ofProgram p)).map r.rated).filter fun d => !r.dropped p d

/-! ### The steps of a run -/

theorem configure_eq_rated (r : Runner) (d : Diagnostic) : r.configure d = r.rated d := by
  rw [configure, rated]
  cases r.severities.get? d.ruleId <;> rfl

@[simp] theorem sortKey_rated (r : Runner) (d : Diagnostic) : (r.rated d).sortKey = d.sortKey := rfl

theorem isSuppressed_suppressionsIn (r : Runner) (p : Program) (d : Diagnostic) :
    (r.suppressionsIn p).isSuppressed d = r.dropped p d := by
  rw [suppressionsIn, Suppressions.isSuppressed_addMarks, Suppressions.isSuppressed_merge,
    Suppressions.isSuppressed_empty, Bool.false_or, dropped]

theorem filter_suppressionsIn (r : Runner) (p : Program) (ds : List Diagnostic) :
    (r.suppressionsIn p).filter ds = ds.filter fun d => !r.dropped p d := by
  simp only [Suppressions.filter, isSuppressed_suppressionsIn]

/-- What a checker that does not fail contributes: its findings, rated and filtered first and sorted last. -/
theorem outcome_eq_sort {c : Checker} (hc : c.Dependable) (r : Runner) (context : Context) :
    r.outcome context c
      = Diagnostic.sort (((c.rawFindings context).map r.rated).filter fun d => !r.dropped context.program d) := by
  have hconfigure : r.configure = r.rated := funext (configure_eq_rated r)
  rw [outcome, hc.findings_eq]
  change (r.suppressionsIn context.program).filter _ = _
  rw [filter_suppressionsIn, hconfigure, Diagnostic.map_sort r.rated (sortKey_rated r), Diagnostic.filter_sort]

/-- A checker that does not fail contributes what it finds, rated, unless it is dropped. -/
theorem mem_outcome_iff {c : Checker} (hc : c.Dependable) (r : Runner) (context : Context) (d' : Diagnostic) :
    d' ∈ r.outcome context c
      ↔ ∃ d ∈ c.rawFindings context, r.rated d = d' ∧ r.dropped context.program d = false := by
  rw [outcome_eq_sort hc, (Diagnostic.sort_perm _).mem_iff, List.mem_filter, List.mem_map]
  -- Rating keeps the rule and the place of a finding, so it is dropped before exactly if it is dropped afterwards.
  constructor
  · rintro ⟨⟨d, hd, rfl⟩, hkept⟩
    exact ⟨d, hd, rfl, (Bool.not_eq_true' (r.dropped context.program (r.rated d))).mp hkept⟩
  · rintro ⟨d, hd, rfl, hkept⟩
    exact ⟨⟨d, hd, rfl⟩, (Bool.not_eq_true' (r.dropped context.program (r.rated d))).mpr hkept⟩

theorem emitted_foldl_record (f : Checker → List Diagnostic) (elapsed : String → Amount) (cs : List Checker)
    (report : Report) :
    (cs.foldl (fun report c => report.record c.name (f c) (elapsed c.name)) report).emitted
      = report.emitted ++ cs.flatMap f := by
  induction cs generalizing report with
  | nil => simp
  | cons c cs ih =>
    rw [List.foldl_cons, ih, List.flatMap_cons, ← List.append_assoc]
    rfl

/-- The selected checkers contribute one after the other, however long they took. -/
theorem emitted_runTimed (r : Runner) (elapsed : String → Amount) (p : Program) (names : Option (List String)) :
    (r.runTimed elapsed p names).emitted = (r.select names).flatMap (r.outcome (.ofProgram p)) := by
  rw [runTimed, emitted_foldl_record]
  rfl

theorem emitted_run (r : Runner) (p : Program) (names : Option (List String)) :
    (r.run p names).emitted = (r.select names).flatMap (r.outcome (.ofProgram p)) :=
  r.emitted_runTimed noTime p names

/-- A run emits what its checkers find, rated, unless it is dropped. -/
theorem mem_emitted_run_iff (r : Runner) (p : Program) {names : Option (List String)}
    (hsuite : ∀ c ∈ r.select names, c ∈ Registry.suite) (d' : Diagnostic) :
    d' ∈ (r.run p names).emitted
      ↔ ∃ c ∈ r.select names, ∃ d ∈ c.rawFindings (.ofProgram p), r.rated d = d' ∧ r.dropped p d = false := by
  rw [emitted_run, List.mem_flatMap]
  apply exists_congr
  intro c
  apply and_congr_right
  intro hc
  exact mem_outcome_iff (Registry.dependable_of_mem_suite (hsuite c hc)) r (.ofProgram p) d'

theorem checkerNames_foldl_record (f : Checker → List Diagnostic) (elapsed : String → Amount) (cs : List Checker)
    (report : Report) :
    (cs.foldl (fun report c => report.record c.name (f c) (elapsed c.name)) report).checkerNames
      = report.checkerNames ++ cs.map Checker.name := by
  induction cs generalizing report with
  | nil => simp
  | cons c cs ih =>
    rw [List.foldl_cons, ih, List.map_cons, List.append_cons]
    rfl

theorem checkerNames_runTimed (r : Runner) (elapsed : String → Amount) (p : Program) (names : Option (List String)) :
    (r.runTimed elapsed p names).checkerNames = (r.select names).map Checker.name := by
  rw [runTimed, checkerNames_foldl_record]
  rfl

theorem diagnostics_run_eq_sort (r : Runner) (p : Program) (names : Option (List String))
    (hsuite : ∀ c ∈ r.select names, c ∈ Registry.suite) :
    (r.run p names).diagnostics = Diagnostic.sort (r.onePass p names) := by
  have houtcome : ∀ c ∈ r.select names, r.outcome (.ofProgram p) c
      = Diagnostic.sort (((c.rawFindings (.ofProgram p)).map r.rated).filter fun d => !r.dropped p d) :=
    fun c hc => outcome_eq_sort (Registry.dependable_of_mem_suite (hsuite c hc)) r (.ofProgram p)
  rw [Report.diagnostics, emitted_run, List.flatMap_congr houtcome, Diagnostic.sort_flatMap_sort, onePass,
    List.map_flatMap, List.filter_flatMap]

theorem emitted_run_perm_onePass (r : Runner) (p : Program) (names : Option (List String))
    (hsuite : ∀ c ∈ r.select names, c ∈ Registry.suite) : (r.run p names).emitted.Perm (r.onePass p names) := by
  have hsorted := r.diagnostics_run_eq_sort p names hsuite
  have hleft := Diagnostic.sort_perm (r.run p names).emitted
  rw [← Report.diagnostics, hsorted] at hleft
  exact hleft.symm.trans (Diagnostic.sort_perm _)

/-- The findings of a run are those of one pass after a single stable sort: none is lost or doubled, they stand in the
order of their keys, and those with one key in the order in which the checkers found them. -/
theorem diagnostics_run_onePass (r : Runner) (p : Program) (names : Option (List String))
    (hsuite : ∀ c ∈ r.select names, c ∈ Registry.suite) :
    (r.run p names).diagnostics = Diagnostic.sort (r.onePass p names)
      ∧ (r.run p names).diagnostics.Perm (r.onePass p names)
      ∧ ((r.run p names).diagnostics.Pairwise fun a b => a.sortKey ≤ b.sortKey)
      ∧ ∀ k, Diagnostic.atKey k (r.run p names).diagnostics = Diagnostic.atKey k (r.onePass p names) := by
  rw [diagnostics_run_eq_sort r p names hsuite]
  exact ⟨rfl, Diagnostic.sort_perm _, Diagnostic.pairwise_sort _, fun k => Diagnostic.atKey_sort k _⟩

/-- A runner with a severity, a suppression and several workers. -/
def sampleRunner : Runner where
  severities := Table.empty.insert "GMDTR01" .error
  suppressions := Suppressions.empty.addFile "GMDTR05" "Old.cs"
  jobs := 4

/-- A program with two findings at one place, after a suppressed one. -/
def sampleProgram : Program :=
  let request : TypeRef := { name := "IRequest", scope := "MediatR", assembly := "MediatR.Contracts" }
  { types := [
      { name := "IRequest", scope := "MediatR", assembly := "MediatR.Contracts", inSource := false },
      { name := "Zulu", interfaces := [request], span := { file := "B.cs", startLine := 3 } },
      { name := "Yankee", interfaces := [request], span := { file := "A.cs", startLine := 7 } },
      { name := "Xray", interfaces := [request], span := { file := "A.cs", startLine := 7 } }]
    suppressions := [{ ruleId := "GMDTR01", file := "B.cs", line := 3 }] }

/-- A selection with a repeated and an unknown name. -/
def sampleNames : Option (List String) := some ["naming-convention", "unknown", "naming-convention"]

theorem diagnostics_run_onePass_sample :
    (∀ c ∈ sampleRunner.select sampleNames, c ∈ Registry.suite)
      ∧ ((sampleRunner.onePass sampleProgram sampleNames).map fun d => (d.message, d.severity))
        = [("'Yankee' should end with 'Command' or 'Query'", .error),
          ("'Xray' should end with 'Command' or 'Query'", .error),
          ("'Yankee' should end with 'Command' or 'Query'", .error),
          ("'Xray' should end with 'Command' or 'Query'", .error)]
      ∧ (sampleRunner.run sampleProgram sampleNames).diagnostics
        = Diagnostic.sort (sampleRunner.onePass sampleProgram sampleNames)
      ∧ (sampleRunner.run sampleProgram sampleNames).diagnostics.Perm
        (sampleRunner.onePass sampleProgram sampleNames)
      ∧ ((sampleRunner.run sampleProgram sampleNames).diagnostics.Pairwise fun a b => a.sortKey ≤ b.sortKey)
      ∧ ∀ k, Diagnostic.atKey k (sampleRunner.run sampleProgram sampleNames).diagnostics
        = Diagnostic.atKey k (sampleRunner.onePass sampleProgram sampleNames) := by
  have hselect : sampleRunner.select sampleNames = [Naming.checker, Naming.checker] := rfl
  have hsuite : ∀ c ∈ sampleRunner.select sampleNames, c ∈ Registry.suite := by
    intro c hc
    rw [hselect] at hc
    simp only [List.mem_cons, List.not_mem_nil, or_false, or_self] at hc
    rw [hc]
    exact List.mem_cons_self
  exact ⟨hsuite, by decide +kernel, diagnostics_run_onePass sampleRunner sampleProgram sampleNames hsuite⟩

end Runner

end Mediation
