import Mathlib.Algebra.Ring.Nat
import Mathlib.Data.List.Perm.Basic
import Mediation.Proofs.MergeLaws
import Mediation.Proofs.RegistryHistory

/-!
# Findings by checker

The groups of a report account for its findings: together they hold every finding that was emitted, as often as it was
emitted, and their sizes, which a summary prints, add up to the total. One run sets the group of a checker and a merge
extends it, so this rests on a selection that takes no checker twice. A checker that is selected twice is run twice,
and its second group takes the place of the first one.
-/

namespace Mediation

/-! ### Groups in tables -/

namespace Table

theorem flatten_alterEntries_perm {κ α : Type} [DecidableEq κ] (k : κ) (added : List α) (es : List (κ × List α)) :
    ((alterEntries k (·.getD [] ++ added) es).map Prod.snd).flatten.Perm ((es.map Prod.snd).flatten ++ added) := by
  induction es with
  | nil => simp [alterEntries]
  | cons e es ih =>
    obtain ⟨j, group⟩ := e
    by_cases hj : j = k
    · simp only [alterEntries, if_pos hj, List.map_cons, List.flatten_cons, Option.getD_some, List.append_assoc]
      exact List.perm_append_comm.append_left group
    · simp only [alterEntries, if_neg hj, List.map_cons, List.flatten_cons, List.append_assoc]
      exact ih.append_left group

theorem flatten_values_alter_perm {κ α : Type} [DecidableEq κ] (t : Table κ (List α)) (k : κ) (added : List α) :
    (t.alter k (·.getD [] ++ added)).values.flatten.Perm (t.values.flatten ++ added) :=
  flatten_alterEntries_perm k added t.entries

theorem flatten_values_foldl_alter_perm {κ α : Type} [DecidableEq κ] (es : List (κ × List α)) (t : Table κ (List α)) :
    (es.foldl (fun t e => t.alter e.1 (·.getD [] ++ e.2)) t).values.flatten.Perm
      (t.values.flatten ++ (es.map Prod.snd).flatten) := by
  induction es generalizing t with
  | nil => simp
  | cons e es ih =>
    rw [List.foldl_cons, List.map_cons, List.flatten_cons, ← List.append_assoc]
    exact (ih _).trans ((t.flatten_values_alter_perm e.1 e.2).append_right _)

theorem get?_eq_none_of_not_mem {κ ν : Type} [DecidableEq κ] {t : Table κ ν} {k : κ} (h : k ∉ t.keys) :
    t.get? k = none := by
  cases hget : t.get? k with
  | none => rfl
  | some v => exact absurd ((t.mem_keys_iff k).mpr ⟨v, hget⟩) h

end Table

/-! ### Reports whose groups account for their findings -/

namespace Report

/-- The groups stand in the order of the names and hold the findings; statistics are times. -/
structure Accounted (r : Report) : Prop where
  names_eq : r.checkerNames = r.byChecker.keys
  emitted_perm : r.emitted.Perm r.byChecker.values.flatten
  timed : Timed r.stats

theorem accounted_empty : Accounted {} := ⟨rfl, .refl _, within_empty⟩

theorem Accounted.record {r : Report} (h : r.Accounted) {checker : String} (hfresh : checker ∉ r.checkerNames)
    (found : List Diagnostic) {elapsed : Amount} (helapsed : elapsed.IsFloat) :
    (r.record checker found elapsed).Accounted := by
  have hkey : checker ∉ r.byChecker.keys := h.names_eq ▸ hfresh
  -- A group that was not there is extended from nothing.
  have hinsert : r.byChecker.insert checker found = r.byChecker.alter checker (·.getD [] ++ found) :=
    r.byChecker.alter_congr checker (by rw [Table.get?_eq_none_of_not_mem hkey]; rfl)
  refine ⟨?_, ?_, h.timed.insert _ helapsed⟩
  · change r.checkerNames ++ [checker] = (r.byChecker.insert checker found).keys
    rw [Table.insert, Table.keys_alter, if_neg hkey, h.names_eq]
  · change (r.emitted ++ found).Perm (r.byChecker.insert checker found).values.flatten
    rw [hinsert]
    exact (h.emitted_perm.append_right found).trans (r.byChecker.flatten_values_alter_perm checker found).symm

theorem Accounted.merge {r other : Report} (h : r.Accounted) (hother : other.Accounted) :
    (r.merge other).Accounted where
  names_eq := by
    rw [checkerNames_merge Amount.summable_isFloat h.timed hother.timed, byChecker_merge, Table.keys_combine,
      h.names_eq, hother.names_eq]
  emitted_perm := (h.emitted_perm.append hother.emitted_perm).trans
    (Table.flatten_values_foldl_alter_perm other.byChecker.entries r.byChecker).symm
  timed := within_merge Amount.summable_isFloat h.timed hother.timed

/-! ### Sizes -/

theorem sum_countOf_keys (r : Report) :
    (r.byChecker.keys.map r.countOf).sum = r.byChecker.values.flatten.length := by
  have hsizes : r.byChecker.keys.map r.countOf = r.byChecker.values.map List.length := by
    rw [Table.keys, Table.values, List.map_map, List.map_map]
    refine List.map_congr_left fun e he => ?_
    have hget : r.byChecker.get? e.1 = some e.2 := (Table.get?_eq_some_iff _ _ _).mpr he
    rw [Function.comp_apply, countOf, hget]
    rfl
  rw [hsizes, List.length_flatten]

theorem Accounted.sum_countOf {r : Report} (h : r.Accounted) : (r.checkerNames.map r.countOf).sum = r.totalCount := by
  rw [h.names_eq, sum_countOf_keys, totalCount, h.emitted_perm.length_eq]

end Report

/-! ### Runs -/

namespace Runner

variable (r : Runner)

theorem accounted_foldl_record (f : Checker → List Diagnostic) {elapsed : String → Amount}
    (helapsed : ∀ name, (elapsed name).IsFloat) {cs : List Checker} {report : Report} (h : report.Accounted)
    (hnodup : (report.checkerNames ++ cs.map Checker.name).Nodup) :
    (cs.foldl (fun report c => report.record c.name (f c) (elapsed c.name)) report).Accounted := by
  induction cs generalizing report with
  | nil => exact h
  | cons c cs ih =>
    rw [List.map_cons, List.append_cons] at hnodup
    have hfresh : c.name ∉ report.checkerNames := by
      have hnames := (List.nodup_append.mp hnodup).1
      exact fun hmem => (List.nodup_append.mp hnames).2.2 c.name hmem c.name (List.mem_singleton_self _) rfl
    exact ih (h.record hfresh (f c) (helapsed c.name)) hnodup

theorem accounted_runTimed (hregistry : r.registry.Built) {names : Option (List String)} (hnames : r.SelectsOnce names)
    {elapsed : String → Amount} (helapsed : ∀ name, (elapsed name).IsFloat) (p : Program) :
    (r.runTimed elapsed p names).Accounted :=
  accounted_foldl_record _ helapsed Report.accounted_empty
    ((nodup_names_select_iff hregistry.labelled names).mpr hnames)

/-- The names in the report of a run are distinct only if no checker is selected twice. -/
theorem nodup_checkerNames_runTimed_iff (hregistry : r.registry.Built) (elapsed : String → Amount) (p : Program)
    (names : Option (List String)) : (r.runTimed elapsed p names).checkerNames.Nodup ↔ r.SelectsOnce names := by
  rw [checkerNames_runTimed, nodup_names_select_iff hregistry.labelled]

end Runner

/-! ### The reports that there are -/

namespace Report

/-- The reports that come from runs by merging, where no run selects a checker twice. Times are arbitrary. -/
inductive Obtained : Report → Prop where
  | run {r : Runner} {names : Option (List String)} (hregistry : r.registry.Built) (hnames : r.SelectsOnce names)
      (p : Program) (time : String → Binary64) : Obtained (r.runTimed (fun name => .float (time name)) p names)
  | runMany {r : Runner} {names : Option (List String)} (hregistry : r.registry.Built) (hnames : r.SelectsOnce names)
      (programs : List (Program × (String → Binary64))) :
      Obtained (r.runManyTimed (programs.map (Runner.timedBy .float)) names)
  | merge {a b : Report} (ha : Obtained a) (hb : Obtained b) : Obtained (a.merge b)

theorem Obtained.accounted {report : Report} (h : Obtained report) : report.Accounted := by
  induction h with
  | run hregistry hnames p time => exact Runner.accounted_runTimed _ hregistry hnames (fun name => ⟨time name, rfl⟩) p
  | runMany hregistry hnames programs =>
    rw [Runner.runManyTimed_eq_mergeAll]
    refine mergeAll_induction accounted_empty (fun _ _ ha hb => ha.merge hb) fun report hreport => ?_
    obtain ⟨timed, htimed, rfl⟩ := List.mem_map.mp hreport
    exact Runner.accounted_runTimed _ hregistry hnames
      (Runner.of_mem_map_timedBy (fun time => ⟨time, rfl⟩) timed htimed) timed.1
  | merge _ _ iha ihb => exact iha.merge ihb

/-- The groups of a report hold all its findings, its names are distinct, and the sizes that its summary prints add up
to the total. -/
theorem groups_account_for_findings {report : Report} (h : Obtained report) :
    report.emitted.Perm report.byChecker.values.flatten
      ∧ report.checkerNames.Nodup
      ∧ (report.checkerNames.map report.countOf).sum = report.totalCount
      ∧ ∃ time : String → String, report.summary = .ok (Text.join "\n"
        (("Checker run complete: " ++ toString report.totalCount ++ " diagnostics (" ++ toString report.errorCount
          ++ " errors, " ++ toString report.warningCount ++ " warnings)")
          :: report.checkerNames.map (report.countLine time))) := by
  have haccounted := h.accounted
  obtain ⟨elapsed, hsummary⟩ := exists_summary_eq haccounted.timed
  refine ⟨haccounted.emitted_perm, ?_, haccounted.sum_countOf, _, hsummary⟩
  rw [haccounted.names_eq]
  exact report.byChecker.nodup_keys

/-- A selection with names that are not known. -/
def sampleChoice : Option (List String) := some ["unknown", "naming-convention", "unknown"]

/-- The report on a program merged with one on two programs. -/
def sampleReport : Report :=
  (({} : Runner).run Runner.sampleProgram none).merge
    (({} : Runner).runMany [Runner.sampleProgram, Runner.sampleProgram] sampleChoice)

theorem totalCount_sampleReport : sampleReport.totalCount = 6 := by
  have hall : (({} : Runner).run Runner.sampleProgram none).emitted.length = 2 :=
    (Runner.emitted_run_perm_onePass {} Runner.sampleProgram none fun _ hc => hc).length_eq.trans (by decide +kernel)
  have hchoice : (({} : Runner).run Runner.sampleProgram sampleChoice).emitted.length = 2 := by
    refine (Runner.emitted_run_perm_onePass {} Runner.sampleProgram sampleChoice fun c hc => ?_).length_eq.trans
      (by decide +kernel)
    obtain rfl := List.mem_singleton.mp (show c ∈ [Naming.checker] from hc)
    exact List.mem_cons_self
  rw [totalCount, sampleReport, emitted_merge, Runner.emitted_runMany]
  simp [hall, hchoice]

theorem groups_account_for_findings_sample :
    Obtained sampleReport ∧ sampleReport.totalCount = 6
      ∧ sampleReport.emitted.Perm sampleReport.byChecker.values.flatten
      ∧ (sampleReport.checkerNames.map sampleReport.countOf).sum = 6 := by
  have hnames : ({} : Runner).SelectsOnce sampleChoice := by
    change (["unknown", "naming-convention", "unknown"].filter
      fun name => (Registry.standard.find? name).isSome).Nodup
    decide
  have hnone : ({} : Runner).SelectsOnce none := trivial
  have hobtained : Obtained sampleReport :=
    .merge (.run Registry.built_standard hnone Runner.sampleProgram fun _ => .zero false)
      (.runMany Registry.built_standard hnames
        [(Runner.sampleProgram, fun _ => .zero false), (Runner.sampleProgram, fun _ => .zero false)])
  obtain ⟨hperm, -, hsum, -⟩ := groups_account_for_findings hobtained
  exact ⟨hobtained, totalCount_sampleReport, hperm, hsum.trans totalCount_sampleReport⟩

end Report

/-! ### A checker that is selected twice -/

namespace Runner

variable {r : Runner} {names : Option (List String)} {c : Checker}

/-- A checker that is selected twice emits its findings twice and has them in its group once. -/
theorem run_of_selected_twice (h : r.select names = [c, c]) (p : Program) :
    (r.run p names).emitted = r.outcome (.ofProgram p) c ++ r.outcome (.ofProgram p) c
      ∧ (r.run p names).byChecker.entries = [(c.name, r.outcome (.ofProgram p) c)]
      ∧ (r.run p names).checkerNames = [c.name, c.name] := by
  rw [run, runTimed, h]
  refine ⟨rfl, ?_, rfl⟩
  change Table.alterEntries c.name _ [(c.name, _)] = _
  rw [Table.alterEntries, if_pos rfl]

/-- When a run with a checker that is selected twice is merged, its name is kept once, and so are its findings in its
group. -/
theorem sum_countOf_of_selected_twice (h : r.select names = [c, c]) (p : Program) :
    ((r.runMany [p] names).checkerNames.map (r.runMany [p] names).countOf).sum
        = (r.outcome (.ofProgram p) c).length
      ∧ (r.runMany [p] names).totalCount
        = (r.outcome (.ofProgram p) c).length + (r.outcome (.ofProgram p) c).length := by
  obtain ⟨hemitted, hentries, hnames⟩ := run_of_selected_twice h p
  have hmerge : r.runMany [p] names = Report.merge {} (r.run p names) := rfl
  have htimed : Report.Timed (r.run p names).stats := r.within_runTimed (fun _ => ⟨_, rfl⟩) p names
  have hname : (r.runMany [p] names).checkerNames = [c.name] := by
    rw [hmerge, Report.checkerNames_merge Amount.summable_isFloat Report.within_empty htimed, hnames]
    simp [Report.addNames]
  have hgroup : (r.runMany [p] names).byChecker.get? c.name = some (r.outcome (.ofProgram p) c) := by
    rw [hmerge, Report.byChecker_merge, Table.get?_combine, Table.get?_empty, Option.merge_none_left,
      Table.get?_eq_some_iff, hentries]
    exact List.mem_singleton_self _
  constructor
  · rw [hname, List.map_singleton, List.sum_singleton, Report.countOf, hgroup]
    rfl
  · rw [Report.totalCount, hmerge, Report.emitted_merge, hemitted]
    simp

/-- A selection that names a checker twice. -/
def twice : Option (List String) := some ["naming-convention", "naming-convention"]

theorem length_outcome_naming_sample : (outcome {} (.ofProgram sampleProgram) Naming.checker).length = 2 := by
  rw [outcome_eq_sort (Registry.dependable_of_mem_suite List.mem_cons_self), (Diagnostic.sort_perm _).length_eq]
  decide +kernel

/-- With a checker that is selected twice, the names of a run are repeated and its groups miss what was emitted first.
When the run is merged, the sizes of the groups do not add up to the total. -/
theorem repeated_checker_unaccounted :
    Registry.standard.Built
      ∧ ¬ (run {} sampleProgram twice).emitted.Perm (run {} sampleProgram twice).byChecker.values.flatten
      ∧ ¬ (run {} sampleProgram twice).checkerNames.Nodup
      ∧ ((runMany {} [sampleProgram] twice).checkerNames.map (runMany {} [sampleProgram] twice).countOf).sum = 2
      ∧ (runMany {} [sampleProgram] twice).totalCount = 4 := by
  have hselect : select {} twice = [Naming.checker, Naming.checker] := rfl
  obtain ⟨hemitted, hentries, -⟩ := run_of_selected_twice hselect sampleProgram
  obtain ⟨hsum, htotal⟩ := sum_countOf_of_selected_twice hselect sampleProgram
  rw [length_outcome_naming_sample] at hsum htotal
  refine ⟨Registry.built_standard, fun hperm => ?_, ?_, hsum, htotal⟩
  · have hlength := hperm.length_eq
    rw [hemitted, Table.values, hentries] at hlength
    simp [length_outcome_naming_sample] at hlength
  · have honce : ¬ ({} : Runner).SelectsOnce twice := by
      change ¬ (["naming-convention", "naming-convention"].filter
        fun name => (Registry.standard.find? name).isSome).Nodup
      decide
    exact fun hnodup =>
      honce ((nodup_checkerNames_runTimed_iff {} Registry.built_standard noTime sampleProgram twice).mp hnodup)

end Runner

end Mediation
