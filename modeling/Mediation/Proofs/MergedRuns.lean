import Mathlib.Data.List.Basic
import Mediation.Proofs.DiagnosticOrder
import Mediation.Proofs.OnePass
import Mediation.Runner

/-!
# Runs over several programs

The findings of several programs are those of each program alone, one after the other, and all counts are taken over
this list. The statistics of runs are times, so a merge never fails on them and every report has a summary.
-/

namespace Mediation

namespace Report

/-! ### Counting -/

theorem mem_diagnostics (r : Report) (d : Diagnostic) : d ∈ r.diagnostics ↔ d ∈ r.emitted :=
  (Diagnostic.sort_perm r.emitted).mem_iff

theorem errorCount_pos_iff (r : Report) : 0 < r.errorCount ↔ ∃ d ∈ r.emitted, d.severity = .error := by
  rw [errorCount, ofSeverity, List.length_pos_iff_exists_mem]
  simp only [List.mem_filter, decide_eq_true_eq, mem_diagnostics]

@[simp] theorem emitted_merge (r other : Report) : (r.merge other).emitted = r.emitted ++ other.emitted := rfl

/-- The reports merged one after the other, from the empty one on. -/
def mergeAll (reports : List Report) : Report := reports.foldl merge {}

/-- What holds of the empty report and is kept by a merge holds of merged reports. -/
theorem mergeAll_induction {P : Report → Prop} (hempty : P {}) (hmerge : ∀ a b, P a → P b → P (a.merge b))
    {reports : List Report} (h : ∀ r ∈ reports, P r) : P (mergeAll reports) :=
  List.foldlRecOn reports merge hempty fun a ha b hb => hmerge a b ha (h b hb)

theorem emitted_foldl_merge (reports : List Report) (report : Report) :
    (reports.foldl merge report).emitted = report.emitted ++ reports.flatMap emitted := by
  induction reports generalizing report with
  | nil => simp
  | cons other reports ih =>
    rw [List.foldl_cons, ih, emitted_merge, List.append_assoc, List.flatMap_cons]

end Report

namespace Runner

theorem runManyTimed_eq_mergeAll (r : Runner) (programs : List (Program × (String → Amount)))
    (names : Option (List String)) :
    r.runManyTimed programs names = Report.mergeAll (programs.map fun timed => r.runTimed timed.2 timed.1 names) := by
  rw [runManyTimed, Report.mergeAll, List.foldl_map]

/-- What several programs contribute is what each of them contributes alone, however long it took. -/
theorem emitted_runManyTimed (r : Runner) (programs : List (Program × (String → Amount)))
    (names : Option (List String)) :
    (r.runManyTimed programs names).emitted = programs.flatMap fun timed => (r.run timed.1 names).emitted := by
  rw [runManyTimed_eq_mergeAll, Report.mergeAll, Report.emitted_foldl_merge, List.flatMap_map]
  simp only [emitted_runTimed, emitted_run]
  rfl

theorem emitted_runMany (r : Runner) (programs : List Program) (names : Option (List String)) :
    (r.runMany programs names).emitted = programs.flatMap fun p => (r.run p names).emitted := by
  rw [runMany, emitted_runManyTimed, List.flatMap_map]

end Runner

/-! ### Statistics -/

namespace Amount

/-- Amounts that can be added, with a sum of the same sort. What is not there counts as zero. -/
structure Summable (S : Amount → Prop) : Prop where
  zero_add : ∀ {b}, S b → ∃ sum, (whole 0).add b = .ok sum ∧ S sum
  add : ∀ {a b}, S a → S b → ∃ sum, a.add b = .ok sum ∧ S sum

/-- Whether an amount is a floating-point number. -/
def IsFloat (a : Amount) : Prop := ∃ time, a = .float time

variable {a : Amount} {x : Binary64}

theorem toBinary64_zero : (whole 0).toBinary64 = .ok (.zero false) := by decide +kernel

theorem add_float (ha : a.toBinary64 = .ok x) (y : Binary64) : a.add (.float y) = .ok (.float (x.add y)) := by
  rw [add.eq_2 a (.float y) (by simp), ha]
  rfl

theorem summable_isFloat : Summable IsFloat where
  zero_add := by
    rintro - ⟨y, rfl⟩
    exact ⟨_, add_float toBinary64_zero y, _, rfl⟩
  add := by
    rintro - - ⟨x, rfl⟩ ⟨y, rfl⟩
    exact ⟨_, add_float rfl y, _, rfl⟩

theorem display_of_toBinary64 (ha : a.toBinary64 = .ok x) : a.display = .ok (x.fixed 1) := by
  rw [display, ha]
  rfl

end Amount

namespace Report

/-- Statistics whose amounts are all of one sort. -/
def Within (S : Amount → Prop) (stats : Table String Amount) : Prop :=
  ∀ key amount, stats.get? key = some amount → S amount

/-- Statistics that are all floating-point numbers. -/
abbrev Timed : Table String Amount → Prop := Within Amount.IsFloat

variable {S : Amount → Prop} {stats : Table String Amount}

theorem within_empty : Within S .empty := by
  intro key amount h
  simp at h

theorem Within.insert (h : Within S stats) (key : String) {amount : Amount} (hamount : S amount) :
    Within S (stats.insert key amount) := by
  intro key' amount' h'
  rw [Table.get?_insert] at h'
  split at h'
  · exact Option.some.inj h' ▸ hamount
  · exact h key' amount' h'

theorem Within.of_mem_entries (h : Within S stats) {entry : String × Amount} (hentry : entry ∈ stats.entries) :
    S entry.2 :=
  h entry.1 entry.2 ((Table.get?_eq_some_iff _ _ _).mpr hentry)

theorem Within.exists_add (hS : Amount.Summable S) (h : Within S stats) (key : String) {amount : Amount}
    (hamount : S amount) : ∃ sum, ((stats.get? key).getD (.whole 0)).add amount = .ok sum ∧ S sum := by
  cases hkey : stats.get? key with
  | none => exact hS.zero_add hamount
  | some found => exact hS.add (h key found hkey) hamount

/-- Amounts that can be added are added without a fault. -/
theorem Within.addStats (hS : Amount.Summable S) (h : Within S stats) {entries : List (String × Amount)}
    (hentries : ∀ entry ∈ entries, S entry.2) :
    Within S (Report.addStats stats entries).1 ∧ (Report.addStats stats entries).2 = none := by
  induction entries generalizing stats with
  | nil => exact ⟨h, rfl⟩
  | cons entry entries ih =>
    obtain ⟨key, amount⟩ := entry
    obtain ⟨sum, hsum, hS'⟩ := h.exists_add hS key (hentries _ List.mem_cons_self)
    rw [Report.addStats, hsum]
    exact ih (h.insert key hS') fun entry hentry => hentries entry (List.mem_cons_of_mem _ hentry)

theorem within_merge (hS : Amount.Summable S) {r other : Report} (h : Within S r.stats)
    (hother : Within S other.stats) : Within S (r.merge other).stats :=
  (h.addStats hS fun _ hentry => hother.of_mem_entries hentry).1

theorem checkerNames_merge (hS : Amount.Summable S) {r other : Report} (h : Within S r.stats)
    (hother : Within S other.stats) :
    (r.merge other).checkerNames = addNames r.checkerNames other.checkerNames := by
  have hfault : r.mergeFault? other = none := (h.addStats hS fun _ hentry => hother.of_mem_entries hentry).2
  rw [merge, hfault]
  rfl

theorem within_mergeAll (hS : Amount.Summable S) {reports : List Report} (h : ∀ r ∈ reports, Within S r.stats) :
    Within S (mergeAll reports).stats :=
  mergeAll_induction within_empty (fun _ _ => within_merge hS) h

/-! ### Summaries -/

/-- A statistic that is not there counts as zero, so each one is a floating-point number. -/
theorem Timed.exists_toBinary64 (h : Timed stats) (key : String) :
    ∃ time, ((stats.get? key).getD (.whole 0)).toBinary64 = .ok time := by
  cases hkey : stats.get? key with
  | none => exact ⟨_, Amount.toBinary64_zero⟩
  | some amount =>
    obtain ⟨time, rfl⟩ := h key amount hkey
    exact ⟨time, rfl⟩

/-- The size of the group of a checker. -/
def countOf (r : Report) (checker : String) : Nat := ((r.byChecker.get? checker).getD []).length

/-- The line of a checker with its size and a time. -/
def countLine (r : Report) (time : String → String) (checker : String) : String :=
  "  " ++ checker ++ ": " ++ toString (r.countOf checker) ++ " findings (" ++ time checker ++ "ms)"

theorem mapM_checkerLine {r : Report} {time : String → String}
    (htime : ∀ checker, r.checkerLine checker = .ok (r.countLine time checker)) (checkers : List String) :
    checkers.mapM r.checkerLine = .ok (checkers.map (r.countLine time)) := by
  induction checkers with
  | nil => rfl
  | cons checker checkers ih =>
    rw [List.mapM_cons, htime, ih]
    rfl

/-- A summary prints the total and then the size of the group of each checker with its time. -/
theorem exists_summary_eq {r : Report} (h : Timed r.stats) :
    ∃ elapsed : String → Binary64, r.summary = .ok (Text.join "\n"
      (("Checker run complete: " ++ toString r.totalCount ++ " diagnostics (" ++ toString r.errorCount
        ++ " errors, " ++ toString r.warningCount ++ " warnings)")
        :: r.checkerNames.map (r.countLine fun checker => (elapsed checker).fixed 1))) := by
  choose elapsed helapsed using fun checker => h.exists_toBinary64 (elapsedKey checker)
  have hline : ∀ checker,
      r.checkerLine checker = .ok (r.countLine (fun checker => (elapsed checker).fixed 1) checker) := by
    intro checker
    rw [checkerLine, Amount.display_of_toBinary64 (helapsed checker)]
    rfl
  refine ⟨elapsed, ?_⟩
  rw [summary, mapM_checkerLine hline]
  rfl

theorem exists_summary {r : Report} (h : Timed r.stats) : ∃ text, r.summary = .ok text := by
  obtain ⟨_, hsummary⟩ := exists_summary_eq h
  exact ⟨_, hsummary⟩

end Report

namespace Runner

variable {S : Amount → Prop} {elapsed : String → Amount}

theorem within_runTimed (r : Runner) (helapsed : ∀ name, S (elapsed name)) (p : Program)
    (names : Option (List String)) : Report.Within S (r.runTimed elapsed p names).stats :=
  List.foldlRecOn (motive := fun report : Report => Report.Within S report.stats) (r.select names) _
    Report.within_empty fun _ h c _ => h.insert _ (helapsed c.name)

theorem within_of_mem_runs (r : Runner) {programs : List (Program × (String → Amount))}
    (h : ∀ timed ∈ programs, ∀ name, S (timed.2 name)) (names : Option (List String)) :
    ∀ report ∈ programs.map fun timed => r.runTimed timed.2 timed.1 names, Report.Within S report.stats := by
  intro report hreport
  obtain ⟨timed, htimed, rfl⟩ := List.mem_map.mp hreport
  exact r.within_runTimed (h timed htimed) timed.1 names

theorem within_runManyTimed (r : Runner) (hS : Amount.Summable S) {programs : List (Program × (String → Amount))}
    (h : ∀ timed ∈ programs, ∀ name, S (timed.2 name)) (names : Option (List String)) :
    Report.Within S (r.runManyTimed programs names).stats := by
  rw [runManyTimed_eq_mergeAll]
  exact Report.within_mergeAll hS (r.within_of_mem_runs h names)

theorem timed_runMany (r : Runner) (programs : List Program) (names : Option (List String)) :
    Report.Timed (r.runMany programs names).stats := by
  apply r.within_runManyTimed Amount.summable_isFloat
  intro timed htimed name
  obtain ⟨p, -, rfl⟩ := List.mem_map.mp htimed
  exact ⟨_, rfl⟩

end Runner

end Mediation
