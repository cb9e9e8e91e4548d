import Mediation.Proofs.AsciiReports
import Mediation.Proofs.Loads
import Mediation.Proofs.WrittenDumps

/-!
# The exit code of an analysis

If a load is refused, nothing is written and the analysis fails. Otherwise it ends with errors exactly if a selected
checker has a finding whose rule the configuration makes an error and that nothing suppresses: not the configuration,
not the command line, and not the program in which it was found. Neither the format of the report nor the number of
workers changes the exit code, but both can take it away. The lines in the manner of compilers show the texts of the
programs as they are, so a stream that lacks one of their characters ends the analysis after all loads have returned.
Half of a surrogate pair, which a dump can hold and this library does not, is such a character for every stream. The
other formats are in ASCII.
-/

namespace Mediation

/-! ### Errors of a run -/

namespace Runner

variable (r : Runner)

/-- The suite finds warnings, so a finding is an error exactly if its rule is set to one. -/
theorem severity_rated_eq_error_iff {c : Checker} (hc : c ∈ Registry.suite) {context : Context} {d : Diagnostic}
    (hd : d ∈ c.rawFindings context) : (r.rated d).severity = .error ↔ r.severities.get? d.ruleId = some .error := by
  have hwarning := Registry.severity_of_mem_rawFindings hc hd
  rw [rated, hwarning]
  cases r.severities.get? d.ruleId with
  | none => simp
  | some severity => simp

end Runner

namespace CommandLine

open Suppressions (Entry)

/-- A finding in a program that counts as an error: its rule is set to one, and nothing suppresses it. The rules in
`suppress` are those of the command line. -/
structure Offends (c : Configuration) (suppress : List String) (p : Program) (d : Diagnostic) : Prop where
  severity : c.severities.get? d.ruleId = some .error
  configuration : ∀ id ∈ c.suppressed, ¬ (Entry.everywhere id).Hits d
  commandLine : ∀ id ∈ suppress, ¬ (Entry.everywhere id).Hits d
  program : ∀ mark ∈ p.suppressions, ¬ (Entry.ofMark mark).Hits d

/-- A selected checker finds an error in one of the programs. -/
def HasErrors (s : Settings) (c : Configuration) (programs : List Program) : Prop :=
  ∃ p ∈ programs, ∃ checker ∈ Registry.suite, (∀ chosen, s.checkers = some chosen → checker.name ∈ chosen)
    ∧ ∃ d ∈ checker.rawFindings (.ofProgram p), Offends c s.suppress p d

theorem has_suppressions_runner_iff (s : Settings) (c : Configuration) (e : Entry) :
    (runner s c).suppressions.Has e
      ↔ (∃ id ∈ c.suppressed, e = .everywhere id) ∨ ∃ id ∈ s.suppress, e = .everywhere id := by
  change (s.suppress.foldl Suppressions.addGlobal (c.suppressed.foldl Suppressions.addGlobal .empty)).Has e ↔ _
  simp only [Suppressions.has_foldl_addGlobal, Suppressions.not_has_empty, false_or]

theorem dropped_runner_eq_false_iff (s : Settings) (c : Configuration) (p : Program) (d : Diagnostic) :
    (runner s c).dropped p d = false
      ↔ (∀ id ∈ c.suppressed, ¬ (Entry.everywhere id).Hits d) ∧ (∀ id ∈ s.suppress, ¬ (Entry.everywhere id).Hits d)
        ∧ ∀ mark ∈ p.suppressions, ¬ (Entry.ofMark mark).Hits d := by
  have hrunner : (runner s c).suppressions.isSuppressed d = true
      ↔ (∃ id ∈ c.suppressed, (Entry.everywhere id).Hits d) ∨ ∃ id ∈ s.suppress, (Entry.everywhere id).Hits d := by
    rw [Suppressions.isSuppressed_iff]
    simp only [has_suppressions_runner_iff, or_and_right, exists_or, Suppressions.exists_hits_iff]
  rw [Runner.dropped, Bool.or_eq_false_iff, ← Bool.not_eq_true, ← Bool.not_eq_true, hrunner,
    Suppressions.isSuppressed_marks_iff]
  simp only [not_or, not_exists, not_and, and_assoc]

theorem errorCount_report_pos_iff (s : Settings) (c : Configuration) (programs : List Program) :
    0 < (report s c programs).errorCount ↔ HasErrors s c programs := by
  have hselect := Runner.mem_select_iff (show (runner s c).registry = .standard from rfl) s.checkers
  have hsuite : ∀ checker ∈ (runner s c).select s.checkers, checker ∈ Registry.suite :=
    fun checker hchecker => ((hselect checker).mp hchecker).1
  rw [Report.errorCount_pos_iff, report, Runner.emitted_runMany]
  simp only [List.mem_flatMap, Runner.mem_emitted_run_iff (runner s c) _ hsuite]
  constructor
  · rintro ⟨_, ⟨p, hp, checker, hchecker, d, hd, rfl, hdropped⟩, hseverity⟩
    obtain ⟨hmem, hchosen⟩ := (hselect checker).mp hchecker
    rw [Runner.severity_rated_eq_error_iff (runner s c) hmem hd] at hseverity
    obtain ⟨hconfiguration, hcommandLine, hprogram⟩ := (dropped_runner_eq_false_iff s c p d).mp hdropped
    exact ⟨p, hp, checker, hmem, hchosen, d, hd, hseverity, hconfiguration, hcommandLine, hprogram⟩
  · rintro ⟨p, hp, checker, hmem, hchosen, d, hd, hoffends⟩
    have hdropped := (dropped_runner_eq_false_iff s c p d).mpr
      ⟨hoffends.configuration, hoffends.commandLine, hoffends.program⟩
    refine ⟨(runner s c).rated d, ⟨p, hp, checker, (hselect checker).mpr ⟨hmem, hchosen⟩, d, hd, rfl, hdropped⟩, ?_⟩
    exact (Runner.severity_rated_eq_error_iff (runner s c) hmem hd).mpr hoffends.severity

/-! ### Exit codes -/

theorem ExitCode.toNat_injective : Function.Injective ExitCode.toNat := by
  rintro (_ | _ | _) (_ | _ | _) h <;> first | rfl | cases h

/-- An exit code tells whether the programs have errors. -/
def ExitCode.Tells (exit : ExitCode) (s : Settings) (c : Configuration) (programs : List Program) : Prop :=
  (exit.toNat = 1 ↔ HasErrors s c programs) ∧ (exit.toNat = 0 ↔ ¬ HasErrors s c programs)

namespace ExitCode.Tells

variable {s : Settings} {c : Configuration} {programs : List Program} {exit exit' : ExitCode}

theorem unique (h : exit.Tells s c programs) (h' : exit'.Tells s c programs) : exit = exit' := by
  apply toNat_injective
  by_cases herrors : HasErrors s c programs
  · exact (h.1.mpr herrors).trans (h'.1.mpr herrors).symm
  · exact (h.2.mpr herrors).trans (h'.2.mpr herrors).symm

theorem toNat_ne_two (h : exit.Tells s c programs) : exit.toNat ≠ 2 := by
  by_cases herrors : HasErrors s c programs
  · rw [h.1.mpr herrors]
    decide
  · rw [h.2.mpr herrors]
    decide

end ExitCode.Tells

theorem tells_of_errorCount (s : Settings) (c : Configuration) (programs : List Program) :
    (if 0 < (report s c programs).errorCount then ExitCode.errors else .clean).Tells s c programs := by
  rw [ExitCode.Tells, ← errorCount_report_pos_iff]
  split
  · rename_i herrors
    exact ⟨iff_of_true rfl herrors, iff_of_false (by decide) (not_not_intro herrors)⟩
  · rename_i herrors
    exact ⟨iff_of_false (by decide) herrors, iff_of_true rfl herrors⟩

/-! ### The report -/

theorem exists_render (format : Format) {r : Report} (h : Report.Timed r.stats) :
    ∃ text, format.render r = .ok text := by
  cases format with
  | json => exact ⟨_, rfl⟩
  | compiler => exact ⟨_, rfl⟩
  | summary => exact Report.exists_summary h

/-- There always is a report, and the exit code tells whether it has errors. -/
theorem exists_conclude (s : Settings) (c : Configuration) (programs : List Program) :
    ∃ text, s.output.render (report s c programs) = .ok text
      ∧ ∃ o, conclude s c programs = .ok o ∧ o.output = (if text = "" then "" else text ++ "\n")
        ∧ o.exit.Tells s c programs := by
  obtain ⟨text, htext⟩ := exists_render s.output ((runner s c).timed_runMany programs s.checkers)
  refine ⟨text, htext, ?_⟩
  rw [conclude]
  change ∃ o, (s.output.render ((runner s c).runMany programs s.checkers)).mapError Breakdown.amount >>= _ = _ ∧ _
  rw [htext]
  exact ⟨_, rfl, rfl, tells_of_errorCount s c programs⟩

/-- Only the lines in the manner of compilers show texts of the programs. -/
theorem isAscii_of_render {s : Settings} (hformat : s.output ≠ .compiler) (c : Configuration) (programs : List Program)
    {text : String} (h : s.output.render (report s c programs) = .ok text) : Text.IsAscii text := by
  cases houtput : s.output with
  | json =>
    rw [houtput] at h
    exact Except.ok.inj h ▸ (report s c programs).isAscii_jsonLines
  | compiler => exact absurd houtput hformat
  | summary =>
    rw [houtput] at h
    refine Report.isAscii_summary ((runner s c).timed_runMany programs s.checkers) (fun name hname => ?_) h
    obtain ⟨checker, hchecker, rfl⟩ := (runner s c).exists_select_of_mem_checkerNames hname
    exact Registry.isAscii_name ((Runner.mem_select_iff rfl s.checkers checker).mp hchecker).1

theorem isAscii_of_conclude {s : Settings} (hformat : s.output ≠ .compiler) {c : Configuration}
    {programs : List Program} {o : Outcome} (h : conclude s c programs = .ok o) : Text.IsAscii o.output := by
  obtain ⟨text, htext, o', ho', houtput, -⟩ := exists_conclude s c programs
  obtain rfl := Except.ok.inj (ho'.symm.trans h)
  rw [houtput]
  split
  · exact (by decide : Text.IsAscii "")
  · exact (Text.isAscii_append _ _).mpr ⟨isAscii_of_render hformat c programs htext, by decide⟩

section Analysis

variable {l : Loader} {s : Settings}

/-- If a load is refused, nothing is written. -/
theorem analyze_of_refused (h : Settled (l.endings s)) (hrefused : .refused ∈ l.endings s) :
    ∃ o, l.analyze s = .ok o ∧ o.exit = .failure ∧ o.output = "" := by
  cases hending : Ending.ofConfiguration (l.configurationOf s) with
  | returned =>
    obtain ⟨c, hc⟩ := (Ending.ofConfiguration_eq_returned_iff _).mp hending
    obtain ⟨log, hconfiguration⟩ := loadConfiguration_of_ok hc
    rw [Loader.endings, hending] at h hrefused
    obtain ⟨message, log', hprograms⟩ := loadPrograms_of_refused h.of_returned (by simpa using hrefused)
    refine ⟨fail message (log ++ log'), ?_, rfl, rfl⟩
    rw [Loader.analyze, hconfiguration]
    change l.loadPrograms s.dumps >>= _ = _
    rw [hprograms]
    rfl
  | refused =>
    obtain ⟨fault, hfault⟩ := (Ending.ofConfiguration_eq_refused_iff _).mp hending
    obtain ⟨log, hconfiguration⟩ := loadConfiguration_of_refused hfault
    refine ⟨fail fault.message log, ?_, rfl, rfl⟩
    rw [Loader.analyze, hconfiguration]
    rfl
  | brokeDown =>
    rw [Loader.endings, hending] at h
    cases h

/-- If all loads return, the report on what they return is the outcome, as long as a number of workers is left. -/
theorem exists_analyze_eq {c : Configuration} {programs : List Program} (h : LoadsAs l s c programs) :
    ∃ log, l.analyze s = if s.jobs.isNone then .error .noJobs
      else (conclude s c programs).map fun o => { o with log := log ++ o.log } := by
  obtain ⟨log, hconfiguration⟩ := loadConfiguration_of_ok h.configuration
  obtain ⟨log', hprograms⟩ := loadPrograms_of_forall₂ h.programs
  refine ⟨log ++ log', ?_⟩
  rw [Loader.analyze, hconfiguration]
  change l.loadPrograms s.dumps >>= _ = _
  rw [hprograms]
  rfl

/-! ### Delivering the report -/

/-- The same request for another format of the report and another number of workers. -/
def Settings.variant (s : Settings) (format : Format) (jobs : Option Int) : Settings :=
  { s with output := format, jobs := jobs }

/-- All loads return, but no number of workers is left, or the stream lacks a character of the report. -/
def Undeliverable (l : Loader) (out : Text.Encoding) (s : Settings) : Prop :=
  ∃ c programs, LoadsAs l s c programs
    ∧ (s.jobs = none ∨ ∃ o, conclude s c programs = .ok o ∧ ∃ d ∈ o.output.toList, out.octets? d = none)

variable (out : Text.Encoding)

theorem run_of_outcome {o : Outcome} (h : l.analyze s = .ok o) :
    l.run out s = (deliver out o.output).map fun written => { exit := o.exit, written, log := o.log } := by
  rw [Loader.run, h]
  rfl

theorem run_of_refused (h : Settled (l.endings s)) (hrefused : .refused ∈ l.endings s) :
    ∃ d, l.run out s = .ok d ∧ d.exit = .failure ∧ d.written = [] := by
  obtain ⟨o, ho, hexit, houtput⟩ := analyze_of_refused h hrefused
  refine ⟨{ exit := o.exit, written := [], log := o.log }, ?_, hexit, rfl⟩
  rw [run_of_outcome out ho, houtput]
  rfl

/-- An output is delivered exactly if the stream has all its characters. -/
theorem deliver_ok_or_error (output : String) :
    (∃ octets, deliver out output = .ok octets ∧ ∀ d ∈ output.toList, out.octets? d ≠ none)
      ∨ (∃ fault, deliver out output = .error (.unencodable out fault)) ∧ ∃ d ∈ output.toList, out.octets? d = none := by
  have hiff := out.exists_encodeFrom_iff 0 output.toList
  simp only [Option.isSome_iff_ne_none] at hiff
  rw [deliver, Text.Encoding.encode]
  cases hencode : out.encodeFrom 0 output.toList with
  | ok octets => exact Or.inl ⟨octets, rfl, hiff.mp ⟨octets, hencode⟩⟩
  | error fault =>
    refine Or.inr ⟨⟨fault, rfl⟩, ?_⟩
    by_contra hnone
    push Not at hnone
    obtain ⟨octets, hoctets⟩ := hiff.mpr hnone
    exact nomatch hencode.symm.trans hoctets

section Loaded

variable {c : Configuration} {programs : List Program} (h : LoadsAs l s c programs)

include h

theorem run_of_noJobs (hjobs : s.jobs = none) : l.run out s = .error (.brokenDown .noJobs) := by
  obtain ⟨log, hanalyze⟩ := exists_analyze_eq h
  rw [Loader.run, hanalyze, hjobs]
  rfl

theorem undeliverable_iff {o : Outcome} (ho : conclude s c programs = .ok o) :
    Undeliverable l out s ↔ s.jobs = none ∨ ∃ d ∈ o.output.toList, out.octets? d = none := by
  constructor
  · rintro ⟨c', programs', h', hcause⟩
    obtain ⟨rfl, rfl⟩ := h.unique h'
    refine hcause.imp_right ?_
    rintro ⟨o', ho', hlacks⟩
    rwa [← Except.ok.inj (ho'.symm.trans ho)]
  · intro hcause
    exact ⟨c, programs, h, hcause.imp_right fun hlacks => ⟨o, ho, hlacks⟩⟩

/-- The lines in the manner of compilers cannot be delivered if the stream lacks a character of a message. -/
theorem undeliverable_of_message (hformat : s.output = .compiler) {d : Diagnostic}
    (hd : d ∈ (report s c programs).emitted) {e : Char} (he : e ∈ d.message.toList) (hlacks : out.octets? e = none) :
    Undeliverable l out s := by
  obtain ⟨text, htext, o, ho, houtput, -⟩ := exists_conclude s c programs
  rw [hformat] at htext
  have hmem : e ∈ text.toList := Except.ok.inj htext ▸ Report.mem_compilerLines_of_message hd he
  have hne : text ≠ "" := by
    rintro rfl
    simp at hmem
  refine (undeliverable_iff out h ho).mpr (Or.inr ⟨e, ?_, hlacks⟩)
  rw [houtput, if_neg hne, String.toList_append, List.mem_append]
  exact Or.inl hmem

/-- The exit code of a report that is delivered tells whether the programs have errors. -/
theorem run_of_loadsAs :
    (¬ Undeliverable l out s → ∃ d, l.run out s = .ok d ∧ d.exit.Tells s c programs)
      ∧ (Undeliverable l out s → ∃ abort, l.run out s = .error abort) := by
  obtain ⟨-, -, o, ho, -, htells⟩ := exists_conclude s c programs
  obtain ⟨log, hanalyze⟩ := exists_analyze_eq h
  rw [undeliverable_iff out h ho]
  by_cases hjobs : s.jobs = none
  · exact ⟨fun hnot => absurd (Or.inl hjobs) hnot, fun _ => ⟨_, run_of_noJobs out h hjobs⟩⟩
  · have hrun : l.run out s = (deliver out o.output).map fun written =>
        { exit := o.exit, written, log := log ++ o.log } := by
      apply run_of_outcome out (o := { o with log := log ++ o.log })
      rw [hanalyze, if_neg (by simpa using hjobs), ho]
      rfl
    rw [hrun]
    rcases deliver_ok_or_error out o.output with ⟨octets, hdeliver, hhas⟩ | ⟨⟨fault, hdeliver⟩, hlacks⟩
    · rw [hdeliver]
      refine ⟨fun _ => ⟨_, rfl, htells⟩, ?_⟩
      rintro (hnone | ⟨d, hd, hlacks⟩)
      · exact absurd hnone hjobs
      · exact absurd hlacks (hhas d hd)
    · rw [hdeliver]
      exact ⟨fun hnot => absurd (Or.inr hlacks) hnot, fun _ => ⟨_, rfl⟩⟩

end Loaded

variable {out}

theorem not_undeliverable_of_refused (hrefused : .refused ∈ l.endings s) : ¬ Undeliverable l out s := by
  rintro ⟨c, programs, hloads, -⟩
  exact hloads.not_refused hrefused

/-- A stream that has ASCII has every character of a report in JSON and of a summary. -/
theorem not_undeliverable_of_hasAscii (hout : out.HasAscii) (hformat : s.output ≠ .compiler) (hjobs : s.jobs ≠ none) :
    ¬ Undeliverable l out s := by
  rintro ⟨c, programs, -, hnone | ⟨o, ho, d, hd, hlacks⟩⟩
  · exact hjobs hnone
  · have hhas := hout d (isAscii_of_conclude hformat ho d hd)
    rw [hlacks] at hhas
    cases hhas

theorem not_undeliverable_utf8 (hjobs : s.jobs ≠ none) : ¬ Undeliverable l .utf8 s := by
  rintro ⟨_, _, -, hnone | ⟨_, -, _, -, hlacks⟩⟩
  · exact hjobs hnone
  · cases hlacks

/-- If a load is refused, an analysis fails without output. Else it ends with errors exactly if the programs have
errors, whatever the format and the number of workers, unless the report cannot be delivered. -/
theorem exit_code_of_loads (out : Text.Encoding) (h : Settled (l.endings s)) :
    ∃ exit : ExitCode,
      (∀ format jobs,
        (¬ Undeliverable l out (s.variant format jobs) →
          ∃ d, l.run out (s.variant format jobs) = .ok d ∧ d.exit = exit ∧ (exit = .failure → d.written = []))
        ∧ (Undeliverable l out (s.variant format jobs) → ∃ abort, l.run out (s.variant format jobs) = .error abort))
      ∧ (out.HasAscii → ∀ format ≠ .compiler, ∀ jobs : Int, ¬ Undeliverable l out (s.variant format (some jobs)))
      ∧ (exit.toNat = 2 ↔ .refused ∈ l.endings s)
      ∧ (.refused ∉ l.endings s → ∃ c programs, LoadsAs l s c programs
        ∧ (exit.toNat = 1 ↔ HasErrors s c programs) ∧ (exit.toNat = 0 ↔ ¬ HasErrors s c programs)) := by
  have hascii : out.HasAscii → ∀ format ≠ .compiler, ∀ jobs : Int,
      ¬ Undeliverable l out (s.variant format (some jobs)) :=
    fun hout format hformat jobs => not_undeliverable_of_hasAscii hout hformat (by simp [Settings.variant])
  by_cases hrefused : .refused ∈ l.endings s
  · refine ⟨.failure, fun format jobs => ⟨fun _ => ?_, fun hundeliverable => ?_⟩, hascii, iff_of_true rfl hrefused,
      fun hnot => absurd hrefused hnot⟩
    · obtain ⟨d, hd, hexit, hwritten⟩ := run_of_refused (s := s.variant format jobs) out h hrefused
      exact ⟨d, hd, hexit, fun _ => hwritten⟩
    · exact absurd hundeliverable (not_undeliverable_of_refused (s := s.variant format jobs) hrefused)
  · obtain ⟨c, programs, hloads⟩ := exists_loadsAs h hrefused
    obtain ⟨-, -, o, -, -, htells⟩ := exists_conclude s c programs
    refine ⟨o.exit, fun format jobs => ?_, hascii, iff_of_false htells.toNat_ne_two hrefused,
      fun _ => ⟨c, programs, hloads, htells⟩⟩
    obtain ⟨hdelivered, haborted⟩ :=
      run_of_loadsAs (s := s.variant format jobs) out ⟨hloads.configuration, hloads.programs⟩
    refine ⟨fun hdeliverable => ?_, haborted⟩
    obtain ⟨d, hd, htells'⟩ := hdelivered hdeliverable
    exact ⟨d, hd, htells'.unique htells, fun hfailure => absurd (congrArg ExitCode.toNat hfailure) htells.toNat_ne_two⟩

end Analysis

/-- A program that suppresses every rule in itself. -/
def mutedProgram : Program where
  suppressions := [{ ruleId := "*" }]

def sampleSettings : Settings where
  dumps := ["muted.json", "sample.json"]
  checkers := some ["naming-convention", "unknown"]
  suppress := ["GMDTR05"]
  config := some ".editorconfig"

/-- The files that the settings name. -/
def sampleFiles : FileReader := fun path =>
  if path = Path.ofString ".editorconfig" then
    .ok (Text.octets "dotnet_diagnostic.GMDTR01.severity = error\n".toList)
  else if path = Path.ofString "muted.json" then .ok (Text.octets mutedProgram.toJson.writeChars)
  else .ok (Text.octets Runner.sampleProgram.toJson.writeChars)

def sampleLoader : Loader := .ofFiles sampleFiles

theorem configurationOf_sample :
    ∃ c, sampleLoader.configurationOf sampleSettings = .ok c ∧ c.severities.get? "GMDTR01" = some .error
      ∧ c.suppressed = [] := by
  have hlevels : ((sampleLoader.configurationOf sampleSettings).toOption.map fun c =>
      (c.severities.get? "GMDTR01", c.suppressed)) = some (some .error, []) := by decide +kernel
  cases hc : sampleLoader.configurationOf sampleSettings with
  | error => simp [hc, Except.toOption] at hlevels
  | ok c => exact ⟨c, rfl, by simpa [hc, Except.toOption] using hlevels⟩

theorem programOf_muted : sampleLoader.programOf "muted.json" = .ok mutedProgram :=
  Snapshot.load_written mutedProgram (by rw [sampleFiles, if_neg (by decide), if_pos rfl])

theorem programOf_sample : sampleLoader.programOf "sample.json" = .ok Runner.sampleProgram :=
  Snapshot.load_written Runner.sampleProgram (by rw [sampleFiles, if_neg (by decide), if_neg (by decide)])

theorem loadsAs_sample {c : Configuration} (hc : sampleLoader.configurationOf sampleSettings = .ok c) :
    LoadsAs sampleLoader sampleSettings c [mutedProgram, Runner.sampleProgram] :=
  ⟨hc, .cons programOf_muted (.cons programOf_sample .nil)⟩

/-- The suppression in the first program does not reach the second one. -/
theorem hasErrors_sample {c : Configuration} (hseverity : c.severities.get? "GMDTR01" = some .error)
    (hsuppressed : c.suppressed = []) : HasErrors sampleSettings c [mutedProgram, Runner.sampleProgram] := by
  have hplace : ("GMDTR01", "A.cs") ∈ (Naming.checker.rawFindings (.ofProgram Runner.sampleProgram)).map
      fun d => (d.ruleId, d.span.file) := by decide +kernel
  obtain ⟨d, hd, hplace⟩ := List.mem_map.mp hplace
  obtain ⟨hrule, hfile⟩ := Prod.mk.inj hplace
  refine ⟨Runner.sampleProgram, by simp, Naming.checker, List.mem_cons_self, ?_, d, hd, ?_⟩
  · rintro _ ⟨⟩
    exact List.mem_cons_self
  · refine ⟨hrule ▸ hseverity, by simp [hsuppressed], ?_, ?_⟩
    · simp [sampleSettings, Entry.Hits, Entry.ruleId, hrule]
    · simp [Runner.sampleProgram, Entry.ofMark, Entry.Hits, Entry.HoldsAt, hfile]

theorem exit_code_of_loads_sample :
    Settled (sampleLoader.endings sampleSettings) ∧ .refused ∉ sampleLoader.endings sampleSettings
      ∧ ∃ exit : ExitCode, exit.toNat = 1 ∧ ∀ format (jobs : Int), ∃ d,
        sampleLoader.run .utf8 (sampleSettings.variant format (some jobs)) = .ok d ∧ d.exit = exit := by
  obtain ⟨c, hc, hseverity, hsuppressed⟩ := configurationOf_sample
  have hendings : sampleLoader.endings sampleSettings = [.returned, .returned, .returned] := by
    rw [Loader.endings, hc]
    change [_, Ending.ofProgram (sampleLoader.programOf "muted.json"),
      Ending.ofProgram (sampleLoader.programOf "sample.json")] = _
    rw [programOf_muted, programOf_sample]
    rfl
  have hsettled : Settled (sampleLoader.endings sampleSettings) := by
    rw [hendings]
    exact .returned (.returned (.returned .nil))
  have hrefused : .refused ∉ sampleLoader.endings sampleSettings := by
    rw [hendings]
    decide
  obtain ⟨exit, hrun, -, -, hcode⟩ := exit_code_of_loads .utf8 hsettled
  obtain ⟨c', programs, hsample, herrors, -⟩ := hcode hrefused
  obtain ⟨rfl, rfl⟩ := (loadsAs_sample hc).unique hsample
  refine ⟨hsettled, hrefused, exit, herrors.mpr (hasErrors_sample hseverity hsuppressed), fun format jobs => ?_⟩
  obtain ⟨d, hd, hexit, -⟩ := (hrun format (some jobs)).1 (not_undeliverable_utf8 (by simp [Settings.variant]))
  exact ⟨d, hd, hexit⟩

/-- A program with a request whose name is not in ASCII. -/
def germanProgram : Program where
  types := [
    { name := "IRequest", scope := "MediatR", assembly := "MediatR.Contracts", inSource := false },
    { name := "Größe", span := { file := "A.cs", startLine := 7 },
      interfaces := [{ name := "IRequest", scope := "MediatR", assembly := "MediatR.Contracts" }] }]

def germanSettings : Settings where
  dumps := ["a.json"]

def germanFiles : FileReader := fun _ => .ok (Text.octets germanProgram.toJson.writeChars)

def germanLoader : Loader := .ofFiles germanFiles

theorem loadsAs_german : LoadsAs germanLoader germanSettings {} [germanProgram] := by
  have hload : germanLoader.programOf "a.json" = .ok germanProgram := Snapshot.load_written germanProgram rfl
  exact ⟨rfl, .cons hload .nil⟩

theorem exists_message_german (format : Format) (jobs : Option Int) :
    ∃ d ∈ (report (germanSettings.variant format jobs) {} [germanProgram]).emitted, 'ß' ∈ d.message.toList := by
  have hselect := Runner.mem_select_iff (r := runner (germanSettings.variant format jobs) {}) rfl none
  have hfound : ((Naming.checker.rawFindings (.ofProgram germanProgram)).any fun d =>
      decide ('ß' ∈ d.message.toList)) = true := by decide +kernel
  obtain ⟨d, hd, hmessage⟩ := List.any_eq_true.mp hfound
  refine ⟨(runner (germanSettings.variant format jobs) {}).rated d, ?_, of_decide_eq_true hmessage⟩
  rw [report, Runner.emitted_runMany, List.flatMap_singleton]
  refine (Runner.mem_emitted_run_iff _ _ (fun checker hchecker => ((hselect checker).mp hchecker).1) _).mpr
    ⟨Naming.checker, List.mem_cons_self, d, hd, rfl, ?_⟩
  exact (dropped_runner_eq_false_iff _ _ _ d).mpr ⟨nofun, nofun, nofun⟩

/-- After all loads have returned, a stream in ASCII takes the report in JSON and not the lines in the manner of
compilers. Without a number of workers no stream takes any report. -/
theorem report_undelivered_german :
    .refused ∉ germanLoader.endings germanSettings
      ∧ (∃ d, germanLoader.run .ascii germanSettings = .ok d ∧ d.exit.toNat = 0)
      ∧ (∃ abort, germanLoader.run .ascii (germanSettings.variant .compiler (some 1)) = .error abort)
      ∧ germanLoader.run .utf8 (germanSettings.variant .json none) = .error (.brokenDown .noJobs) := by
  have hloads : ∀ format jobs, LoadsAs germanLoader (germanSettings.variant format jobs) {} [germanProgram] :=
    fun _ _ => ⟨loadsAs_german.configuration, loadsAs_german.programs⟩
  refine ⟨loadsAs_german.not_refused, ?_, ?_, run_of_noJobs .utf8 (hloads .json none) rfl⟩
  · have herrors : ¬ HasErrors germanSettings {} [germanProgram] := by
      rintro ⟨_, -, _, -, -, d, -, hoffends⟩
      cases hoffends.severity
    have hdeliverable : ¬ Undeliverable germanLoader .ascii germanSettings :=
      not_undeliverable_of_hasAscii Text.Encoding.hasAscii_ascii (by decide) (by decide)
    obtain ⟨d, hd, htells⟩ := (run_of_loadsAs .ascii loadsAs_german).1 hdeliverable
    exact ⟨d, hd, htells.2.mpr herrors⟩
  · obtain ⟨d, hd, hmessage⟩ := exists_message_german .compiler (some 1)
    exact (run_of_loadsAs .ascii (hloads _ _)).2 (undeliverable_of_message .ascii (hloads _ _) rfl hd hmessage rfl)

end CommandLine

end Mediation
