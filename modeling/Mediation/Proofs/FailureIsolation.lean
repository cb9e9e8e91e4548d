import Mathlib.Data.List.Basic
import Mediation.Proofs.OnePass
import Mediation.Proofs.RegistryHistory

/-!
# Failures are isolated

A checker fails in a program if it cannot prepare for it, if it applies there and fails on some item, or if it cannot
correlate what it has found on all items. Then it contributes one hidden finding about the failure in place of all its
own, however many it had by then, and nothing rates or suppresses this finding. The other checkers contribute what they
contribute alone. So a run is the run of the checkers that do not fail, with one more finding, name and group for each
of the others in its place.
-/

namespace Mediation

/-! ### Where a checker fails -/

namespace Checker

/-- The cause of a failure. -/
def cause? {α : Type} : Except String α → Option String
  | .ok _ => none
  | .error cause => some cause

/-- The cause of the first failure of a checker on the items of a program, if it applies to the program and fails. -/
def itemFailure? (c : Checker) (context : Context) : Option String :=
  if c.applies context.catalog then
    match c.subject with
    | .declarations inspect => context.program.sourceTypes.findSome? fun d => cause? (inspect context d)
    | .invocations inspect => context.program.invocations.findSome? fun call => cause? (inspect context call)
  else none

/-- What there is to correlate when a checker has failed on no item. -/
def rawEvidence (c : Checker) (context : Context) : List Diagnostic :=
  if c.applies context.catalog then c.rawFindings context else []

/-- The cause of the first failure of a checker in a program: before it looks at items, on one of them, or after it has
looked at all. -/
def firstFailure? (c : Checker) (context : Context) : Option String :=
  (cause? (c.prepare context)).or
    ((c.itemFailure? context).or (cause? (c.correlate context (c.rawEvidence context))))

/-- An inspection of all items ends with the first failure, and only then not with the findings on all of them. -/
theorem inspectAll_eq {α : Type} (inspect : α → Except String (List Diagnostic)) (items : List α) :
    inspectAll inspect items
      = match items.findSome? fun item => cause? (inspect item) with
        | some cause => .error cause
        | none => .ok (items.flatMap fun item => (inspect item).toOption.getD []) := by
  induction items with
  | nil => rfl
  | cons item items ih =>
    rw [inspectAll, ih, List.findSome?_cons, List.flatMap_cons]
    cases inspect item with
    | error cause => rfl
    | ok found =>
      rw [cause?]
      cases items.findSome? fun item => cause? (inspect item) <;> rfl

theorem evidence_eq (c : Checker) (workers : Int) (context : Context) :
    c.evidence workers context
      = match c.itemFailure? context with
        | some cause => .error cause
        | none => .ok (c.rawEvidence context) := by
  rw [evidence, itemFailure?, rawEvidence]
  split
  · rw [visit, rawFindings]
    cases c.subject with
    | declarations inspect => exact (inspectWith_eq_inspectAll workers _ _).trans (inspectAll_eq _ _)
    | invocations inspect => exact (inspectWith_eq_inspectAll workers _ _).trans (inspectAll_eq _ _)
  · rfl

/-- A checker ends with its first failure, and only then not with what it makes of all its evidence. -/
theorem findings_eq (c : Checker) (workers : Int) (context : Context) :
    c.findings workers context
      = match c.firstFailure? context with
        | some cause => .error cause
        | none => c.correlate context (c.rawEvidence context) := by
  rw [findings, evidence_eq, firstFailure?]
  cases c.prepare context with
  | error cause => rfl
  | ok prepared =>
    cases c.itemFailure? context with
    | some cause => rfl
    | none =>
      change c.correlate context (c.rawEvidence context) = _
      cases c.correlate context (c.rawEvidence context) <;> rfl

theorem exists_correlate_of_firstFailure?_eq_none {c : Checker} {context : Context}
    (h : c.firstFailure? context = none) : ∃ found, c.correlate context (c.rawEvidence context) = .ok found := by
  rw [firstFailure?, Option.or_eq_none_iff, Option.or_eq_none_iff] at h
  obtain ⟨-, -, hcorrelate⟩ := h
  cases hfound : c.correlate context (c.rawEvidence context) with
  | ok found => exact ⟨found, rfl⟩
  | error cause => rw [hfound] at hcorrelate; cases hcorrelate

end Checker

/-! ### Groups in a table -/

namespace Table

theorem filter_alterEntries {κ ν : Type} [DecidableEq κ] (keep : κ → Bool) (k : κ) (f : Option ν → ν)
    (es : List (κ × ν)) :
    (alterEntries k f es).filter (fun e => keep e.1)
      = if keep k then alterEntries k f (es.filter fun e => keep e.1) else es.filter fun e => keep e.1 := by
  induction es with
  | nil => cases hkeep : keep k <;> simp [alterEntries, hkeep]
  | cons e es ih =>
    obtain ⟨j, v⟩ := e
    by_cases hj : j = k
    · subst hj
      cases hkeep : keep j <;> simp [alterEntries, hkeep]
    · cases hkeep : keep j <;> simp only [alterEntries, if_neg hj, List.filter_cons, hkeep, ih] <;> cases keep k <;>
        simp [alterEntries, hj]

variable {α ν : Type} (name : α → String) (f : α → ν)

/-- Leaving out keys before they are written is leaving them out afterwards. -/
theorem filter_foldl_insert (keep : String → Bool) (xs : List α) {t u : Table String ν}
    (h : t.entries.filter (fun e => keep e.1) = u.entries) :
    (xs.foldl (fun t x => t.insert (name x) (f x)) t).entries.filter (fun e => keep e.1)
      = ((xs.filter fun x => keep (name x)).foldl (fun t x => t.insert (name x) (f x)) u).entries := by
  induction xs generalizing t u with
  | nil => exact h
  | cons x xs ih =>
    have hstep : (t.insert (name x) (f x)).entries.filter (fun e => keep e.1)
        = if keep (name x) then (u.insert (name x) (f x)).entries else u.entries :=
      (filter_alterEntries keep (name x) _ t.entries).trans (by rw [h]; rfl)
    rw [List.foldl_cons, List.filter_cons]
    cases hkeep : keep (name x) with
    | true => exact ih (by rw [hstep, hkeep]; rfl)
    | false => exact ih (by rw [hstep, hkeep]; rfl)

/-- A key has the value that is written last, so one on which all agree. -/
theorem get?_foldl_insert {xs : List α} {k : String} {v : ν} (hsame : ∀ x ∈ xs, name x = k → f x = v)
    {t : Table String ν} (h : t.get? k = some v ∨ ∃ x ∈ xs, name x = k) :
    (xs.foldl (fun t x => t.insert (name x) (f x)) t).get? k = some v := by
  induction xs generalizing t with
  | nil => simpa using h
  | cons x xs ih =>
    rw [List.foldl_cons]
    refine ih (fun y hy => hsame y (List.mem_cons_of_mem _ hy)) ?_
    rw [get?_insert]
    by_cases hx : k = name x
    · exact .inl (by rw [if_pos hx, hsame x List.mem_cons_self hx.symm])
    · rw [if_neg hx]
      refine h.imp_right ?_
      rintro ⟨y, hy, rfl⟩
      rcases List.mem_cons.mp hy with rfl | hy
      · exact absurd rfl hx
      · exact ⟨y, hy, rfl⟩

end Table

/-! ### Runs with failing checkers -/

namespace Runner

variable {r : Runner} (p : Program) (names : Option (List String))

/-- The selected checkers that do not fail in a program. -/
def sound (r : Runner) : List Checker := (r.select names).filter fun c => (c.firstFailure? (.ofProgram p)).isNone

/-- The names of the selected checkers that fail in a program. -/
def failingNames (r : Runner) : List String :=
  ((r.select names).filter fun c => (c.firstFailure? (.ofProgram p)).isSome).map Checker.name

theorem outcome_of_firstFailure? {c : Checker} {context : Context} {cause : String}
    (h : c.firstFailure? context = some cause) : r.outcome context c = [failure c cause] := by
  rw [outcome, Checker.findings_eq, h]

theorem byChecker_foldl_record (f : Checker → List Diagnostic) (elapsed : String → Amount) (cs : List Checker)
    (report : Report) :
    (cs.foldl (fun report c => report.record c.name (f c) (elapsed c.name)) report).byChecker
      = cs.foldl (fun groups c => groups.insert c.name (f c)) report.byChecker := by
  induction cs generalizing report with
  | nil => rfl
  | cons c cs ih => exact ih _

theorem byChecker_run (names : Option (List String)) :
    (r.run p names).byChecker
      = (r.select names).foldl (fun groups c => groups.insert c.name (r.outcome (.ofProgram p) c)) .empty :=
  byChecker_foldl_record _ _ _ _

section Labelled

variable (hregistry : r.registry.Labelled)

include hregistry

theorem select_sound : r.select (some ((r.sound p names).map Checker.name)) = r.sound p names :=
  select_names fun _ hc => find?_of_mem_select hregistry (List.mem_of_mem_filter hc)

/-- What a selected checker contributes alone. -/
theorem emitted_run_alone {c : Checker} (hc : c ∈ r.select names) :
    (r.run p (some [c.name])).emitted = r.outcome (.ofProgram p) c := by
  have hfind : ∀ c' ∈ [c], r.registry.find? c'.name = some c' := by
    intro c' hc'
    rw [List.mem_singleton.mp hc']
    exact find?_of_mem_select hregistry hc
  have hselect : r.select (some [c.name]) = [c] := select_names hfind
  rw [emitted_run, hselect, List.flatMap_singleton]

/-- Whether a selected checker fails can be read off its name. -/
theorem isNone_firstFailure?_iff {c : Checker} (hc : c ∈ r.select names) :
    (c.firstFailure? (.ofProgram p)).isNone = true ↔ c.name ∉ r.failingNames p names := by
  rw [failingNames, List.mem_map]
  constructor
  · rintro hnone ⟨c', hc', hname⟩
    obtain ⟨hselected, hsome⟩ := List.mem_filter.mp hc'
    obtain rfl := eq_of_mem_select hregistry hselected hc hname
    rw [Option.isNone_iff_eq_none.mp hnone] at hsome
    cases hsome
  · intro hnot
    cases hfailure : c.firstFailure? (.ofProgram p) with
    | none => rfl
    | some cause => exact absurd ⟨c, List.mem_filter.mpr ⟨hc, by rw [hfailure]; rfl⟩, rfl⟩ hnot

theorem sound_eq_filter_names :
    r.sound p names = (r.select names).filter fun c => c.name ∉ r.failingNames p names := by
  refine List.filter_congr fun c hc => ?_
  rw [Bool.eq_iff_iff, decide_eq_true_eq]
  exact isNone_firstFailure?_iff p names hregistry hc

theorem names_sound :
    (r.sound p names).map Checker.name
      = ((r.select names).map Checker.name).filter fun name => name ∉ r.failingNames p names := by
  rw [sound_eq_filter_names p names hregistry, List.filter_map]
  rfl

end Labelled

/-- A failing checker adds one hidden finding about its failure to a run, in its own place, and nothing else; the other
checkers contribute what they contribute alone, and in the run without the failing ones their names and groups are the
same. -/
theorem failures_isolated (hbuilt : r.registry.Built) :
    (r.run p names).emitted = (r.select names).flatMap (fun c =>
        match c.firstFailure? (.ofProgram p) with
        | some cause =>
          [{ ruleId := "internalError", message := "Checker '" ++ c.name ++ "' failed: " ++ cause, severity := .hidden,
             span := {}, checker := c.name }]
        | none => (r.run p (some [c.name])).emitted)
    ∧ (r.run p (some ((r.sound p names).map Checker.name))).emitted
      = (r.sound p names).flatMap (fun c => (r.run p (some [c.name])).emitted)
    ∧ (∀ c ∈ r.sound p names, ∃ found, c.correlate (.ofProgram p) (c.rawEvidence (.ofProgram p)) = .ok found
      ∧ c.findings r.workers (.ofProgram p) = .ok found)
    ∧ (r.run p (some ((r.sound p names).map Checker.name))).checkerNames
      = (r.run p names).checkerNames.filter (fun name => name ∉ r.failingNames p names)
    ∧ (r.run p (some ((r.sound p names).map Checker.name))).byChecker.entries
      = (r.run p names).byChecker.entries.filter (fun group => group.1 ∉ r.failingNames p names)
    ∧ ∀ c ∈ r.select names, ∀ cause ∈ c.firstFailure? (.ofProgram p),
      c.name ∈ (r.run p names).checkerNames ∧ (r.run p names).byChecker.get? c.name = some [failure c cause] := by
  have hregistry := hbuilt.labelled
  refine ⟨?_, ?_, fun c hc => ?_, ?_, ?_, fun c hc cause hcause => ⟨?_, ?_⟩⟩
  · rw [emitted_run]
    refine List.flatMap_congr fun c hc => ?_
    cases hfailure : c.firstFailure? (.ofProgram p) with
    | none => exact (emitted_run_alone p names hregistry hc).symm
    | some cause => exact outcome_of_firstFailure? hfailure
  · rw [emitted_run, select_sound p names hregistry]
    refine List.flatMap_congr fun c hc => ?_
    exact (emitted_run_alone p names hregistry (List.mem_of_mem_filter hc)).symm
  · have hnone := Option.isNone_iff_eq_none.mp (List.mem_filter.mp hc).2
    obtain ⟨found, hfound⟩ := Checker.exists_correlate_of_firstFailure?_eq_none hnone
    refine ⟨found, hfound, ?_⟩
    rw [Checker.findings_eq, hnone]
    exact hfound
  · rw [run, run, checkerNames_runTimed, checkerNames_runTimed, select_sound p names hregistry,
      names_sound p names hregistry]
  · rw [byChecker_run, byChecker_run, select_sound p names hregistry, sound_eq_filter_names p names hregistry]
    exact (Table.filter_foldl_insert Checker.name _ (fun name => name ∉ r.failingNames p names) _ rfl).symm
  · rw [run, checkerNames_runTimed]
    exact List.mem_map_of_mem hc
  · rw [byChecker_run]
    refine Table.get?_foldl_insert _ _ (fun c' hc' hname => ?_) (.inr ⟨c, hc, rfl⟩)
    rw [eq_of_mem_select hregistry hc' hc hname]
    exact outcome_of_firstFailure? hcause

/-- A checker that reports declarations and fails on one of them. -/
def wary : Checker where
  name := "wary"
  kind := "WaryChecker"
  description := "Fails on Xray"
  rules := [.requestName]
  applies := fun _ => true
  consults := fun _ => false
  subject := .declarations fun _ d =>
    if d.name = "Xray" then .error "boom" else .ok [.ofRule .requestName d.span [d.name] "wary" []]

/-- A checker that reports all declarations and fails at the end. -/
def doubtful : Checker where
  name := "doubtful"
  kind := "DoubtfulChecker"
  description := "Fails at the end"
  rules := [.requestName]
  applies := fun _ => true
  consults := fun _ => false
  subject := .declarations fun _ d => .ok [.ofRule .requestName d.span [d.name] "doubtful" []]
  correlate := fun _ found => .error (toString found.length ++ " doubts")

/-- A runner with these two after the others, which suppresses every rule. -/
def mutedRunner : Runner where
  registry := Registry.standard.after [.register wary, .register doubtful]
  suppressions := Suppressions.empty.addGlobal "*"
  jobs := 4

/-- The same runner without suppressions. -/
def candidRunner : Runner := { mutedRunner with suppressions := .empty }

theorem exists_emitted_candidRunner :
    ∃ d ∈ (candidRunner.run sampleProgram (some [Naming.checker.name])).emitted, d.ruleId = "GMDTR01" := by
  have hsuite : ∀ c ∈ candidRunner.select (some [Naming.checker.name]), c ∈ Registry.suite := by
    intro c hc
    rw [List.mem_singleton.mp (show c ∈ [Naming.checker] from hc)]
    exact List.mem_cons_self
  have hfound : ((Naming.checker.rawFindings (.ofProgram sampleProgram)).any fun d =>
      decide (d.ruleId = "GMDTR01") && !candidRunner.dropped sampleProgram d) = true := by decide +kernel
  simp only [List.any_eq_true, Bool.and_eq_true, decide_eq_true_eq, Bool.not_eq_true'] at hfound
  obtain ⟨d, hd, hrule, hdropped⟩ := hfound
  refine ⟨candidRunner.rated d, ?_, hrule⟩
  exact (mem_emitted_run_iff candidRunner sampleProgram hsuite _).mpr
    ⟨Naming.checker, List.mem_singleton_self _, d, hd, rfl, hdropped⟩

/-- The failures are reported although every rule is suppressed, and without suppressions the findings of the other
checkers stay. -/
theorem failures_isolated_wary :
    mutedRunner.registry.Built
      ∧ (wary.rawFindings (.ofProgram sampleProgram)).length = 2
      ∧ mutedRunner.failingNames sampleProgram none = ["wary", "doubtful"]
      ∧ failure wary "boom" ∈ (mutedRunner.run sampleProgram none).emitted
      ∧ (mutedRunner.run sampleProgram none).byChecker.get? "wary" = some [failure wary "boom"]
      ∧ (mutedRunner.run sampleProgram none).byChecker.get? "doubtful" = some [failure doubtful "3 doubts"]
      ∧ (mutedRunner.run sampleProgram
          (some ((mutedRunner.sound sampleProgram none).map Checker.name))).byChecker.entries
        = (mutedRunner.run sampleProgram none).byChecker.entries.filter
          (fun group => group.1 ∉ ["wary", "doubtful"])
      ∧ (∃ d ∈ (candidRunner.run sampleProgram none).emitted, d.ruleId = "GMDTR01"
        ∧ d ∈ (candidRunner.run sampleProgram
          (some ((candidRunner.sound sampleProgram none).map Checker.name))).emitted) := by
  have hbuilt : mutedRunner.registry.Built := Registry.built_standard.after [.register wary, .register doubtful]
  have hfailing : mutedRunner.failingNames sampleProgram none = ["wary", "doubtful"] := by decide +kernel
  have hselect : mutedRunner.select none = Registry.suite ++ [wary, doubtful] := rfl
  have hwary : wary ∈ mutedRunner.select none := by simp [hselect]
  have hdoubtful : doubtful ∈ mutedRunner.select none := by simp [hselect]
  have hboom : wary.firstFailure? (.ofProgram sampleProgram) = some "boom" := by decide +kernel
  have hdoubts : doubtful.firstFailure? (.ofProgram sampleProgram) = some "3 doubts" := by decide +kernel
  obtain ⟨hemitted, -, -, -, hgroups, hfailed⟩ := failures_isolated sampleProgram none hbuilt
  obtain ⟨hall, hsound, -⟩ := failures_isolated (r := candidRunner) sampleProgram none hbuilt
  refine ⟨hbuilt, by decide +kernel, hfailing, ?_, (hfailed wary hwary "boom" hboom).2,
    (hfailed doubtful hdoubtful "3 doubts" hdoubts).2, hfailing ▸ hgroups, ?_⟩
  · rw [hemitted, List.mem_flatMap]
    refine ⟨wary, hwary, ?_⟩
    rw [hboom]
    exact List.mem_singleton_self _
  · obtain ⟨d, hd, hrule⟩ := exists_emitted_candidRunner
    have hnone : Naming.checker.firstFailure? (.ofProgram sampleProgram) = none := by decide +kernel
    have hnaming : Naming.checker ∈ candidRunner.select none := List.mem_cons_self
    refine ⟨d, ?_, hrule, ?_⟩
    · rw [hall, List.mem_flatMap]
      refine ⟨Naming.checker, hnaming, ?_⟩
      rw [hnone]
      exact hd
    · rw [hsound, List.mem_flatMap]
      exact ⟨Naming.checker, List.mem_filter.mpr ⟨hnaming, by rw [hnone]; rfl⟩, hd⟩

end Runner

end Mediation
