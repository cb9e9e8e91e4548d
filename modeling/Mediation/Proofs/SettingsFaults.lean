import Mathlib.Data.List.Basic
import Mediation.Proofs.Loads
import Mediation.Proofs.SnapshotFaults
import Mediation.Proofs.Utf8

/-!
# Settings files that cannot be used

A settings file gives a configuration or is refused under its path, with two exceptions: a path with a NUL character,
and octets that are no text. The analysis fails over a refused settings file as it does over a refused dump, with a
record of the path and a reason. In the exceptional cases it breaks down, although the load of a dump refuses octets
that are no text like any other fault.
-/

namespace Mediation

/-! ### Files -/

theorem Path.written_ne_empty (path : Path) : path.written ≠ "" := by
  rw [written]
  split
  · decide
  · assumption

namespace FileTree

variable (t : FileTree)

theorem step_ne_nulInPath (part : String) (position : Position) : t.step part position ≠ .error .nulInPath := by
  cases position with
  | above =>
    rw [step]
    repeat' split
    all_goals simp
  | «at» place =>
    rw [step]
    repeat' split
    all_goals simp

theorem foldlM_step_ne_nulInPath (parts : List String) (position : Position) :
    parts.foldlM (fun position part => t.step part position) position ≠ .error .nulInPath := by
  induction parts generalizing position with
  | nil => simp [pure, Except.pure]
  | cons part parts ih =>
    rw [List.foldlM_cons]
    cases hstep : t.step part position with
    | error fault =>
      intro h
      exact t.step_ne_nulInPath part position (hstep.trans (congrArg Except.error (Except.error.inj h)))
    | ok next => exact ih next

theorem follow_ne_nulInPath (path : Path) : t.follow path ≠ .error .nulInPath := by
  rw [follow]
  cases hwalk : path.parts.foldlM (fun position part => t.step part position) (start path) with
  | error fault =>
    intro h
    exact t.foldlM_step_ne_nulInPath path.parts (start path)
      (hwalk.trans (congrArg Except.error (Except.error.inj h)))
  | ok position =>
    cases position with
    | above => exact fun h => nomatch h
    | «at» place =>
      simp only [bind, Except.bind]
      split
      all_goals simp

/-- A path is none exactly if it has a NUL character: nothing in the tree makes it so. -/
theorem read_eq_nulInPath_iff (path : Path) : t.read path = .error .nulInPath ↔ path.hasNul = true := by
  rw [read]
  split
  · rename_i hnul
    exact iff_of_true rfl hnul
  · rename_i hnul
    refine iff_of_false ?_ hnul
    split
    · simp
    · exact t.follow_ne_nulInPath path

end FileTree

/-! ### Loading settings -/

namespace Configuration

/-- The path of a file is none, or the octets of the file are no text. -/
def Unusable (files : FileReader) (path : Path) : Prop :=
  files path = .error .nulInPath ∨ ∃ octets, files path = .ok octets ∧ ¬ octets.toByteArray.IsValidUTF8

/-- The settings give a configuration, or are refused under their path. -/
def ReturnedOrRefused (path : Path) (result : Except LoadFault Configuration) : Prop :=
  (∃ c, result = .ok c) ∨ ∃ fault, result = .error (.refused fault) ∧ fault.source = some path.written

variable (rules : List Rule) {files : FileReader} {path : Path}

theorem load_of_error {fault : LoadFault} (h : loadText files path = .error fault) :
    load rules files path = .error fault := by
  rw [load, h]
  rfl

theorem returnedOrRefused_of_text {text : String} (h : loadText files path = .ok text) :
    ReturnedOrRefused path (load rules files path) := by
  rw [load, h]
  show ReturnedOrRefused path ((parse rules (some path.written) text).mapError .refused)
  rw [parse]
  cases levelsOfText text with
  | ok levels => exact Or.inl ⟨_, rfl⟩
  | error cause => exact Or.inr ⟨⟨cause, some path.written⟩, rfl, rfl⟩

theorem exists_broken_of_unusable (h : Unusable files path) :
    ∃ cause, load rules files path = .error (.broken cause) := by
  rcases h with hnul | ⟨octets, hoctets, hinvalid⟩
  · refine ⟨.nulInPath, load_of_error rules ?_⟩
    rw [loadText, hnul]
  · cases hdecode : Text.Utf8.decode octets with
    | ok text => exact absurd ((Text.Utf8.exists_decode_eq_ok_iff octets).mp ⟨text, hdecode⟩) hinvalid
    | error fault =>
      refine ⟨.settingsNotText fault, load_of_error rules ?_⟩
      rw [loadText, hoctets]
      dsimp only
      rw [hdecode]

theorem returnedOrRefused_of_not_unusable (h : ¬ Unusable files path) :
    ReturnedOrRefused path (load rules files path) := by
  rw [Unusable, not_or] at h
  cases hread : files path with
  | error fault =>
    have hrefused : loadText files path = .error (.refused ⟨.unreadable fault.message, some path.written⟩) := by
      rw [loadText, hread]
      cases fault with
      | nulInPath => exact absurd hread h.1
      | _ => rfl
    exact Or.inr ⟨_, load_of_error rules hrefused, rfl⟩
  | ok octets =>
    have hvalid : octets.toByteArray.IsValidUTF8 := by
      by_contra hinvalid
      exact h.2 ⟨octets, hread, hinvalid⟩
    obtain ⟨text, htext⟩ := (Text.Utf8.exists_decode_eq_ok_iff octets).mpr hvalid
    have hload : loadText files path = .ok (String.ofList (Text.unifyBreaks text)) := by
      rw [loadText, hread]
      dsimp only
      rw [htext]
    exact returnedOrRefused_of_text rules hload

theorem exists_broken_iff :
    (∃ cause, load rules files path = .error (.broken cause)) ↔ Unusable files path := by
  constructor
  · rintro ⟨cause, hcause⟩
    by_contra h
    rcases returnedOrRefused_of_not_unusable rules h with ⟨c, hc⟩ | ⟨fault, hfault, -⟩
    · exact nomatch hcause.symm.trans hc
    · exact nomatch hcause.symm.trans hfault
  · exact exists_broken_of_unusable rules

theorem source_of_refused {fault : Fault} (h : load rules files path = .error (.refused fault)) :
    fault.source = some path.written := by
  have husable : ¬ Unusable files path := by
    intro hunusable
    obtain ⟨cause, hcause⟩ := exists_broken_of_unusable rules hunusable
    exact nomatch h.symm.trans hcause
  rcases returnedOrRefused_of_not_unusable rules husable with ⟨c, hc⟩ | ⟨fault', hfault, hsource⟩
  · exact nomatch h.symm.trans hc
  · obtain rfl : fault = fault' := LoadFault.refused.inj (Except.error.inj (h.symm.trans hfault))
    exact hsource

theorem Fault.message_of_source {fault : Fault} (h : fault.source = some path.written) :
    fault.message = path.written ++ ": " ++ fault.cause.message path.written := by
  rw [message, h]
  show (if path.written = "" then "" else _) ++ _ = _
  rw [if_neg path.written_ne_empty]
  rfl

end Configuration

/-! ### Failing over a file -/

namespace CommandLine

/-- The configuration in the file that the settings ask for. -/
def configurationOf (files : FileReader) (s : Settings) : Except Configuration.LoadFault Configuration :=
  (Loader.ofFiles files).configurationOf s

def programOf (files : FileReader) (dump : String) : Except Snapshot.LoadFault Program :=
  (Loader.ofFiles files).programOf dump

/-- An analysis that ends with code two, writes nothing and records the path of a file and a reason last. -/
def FailsOver (files : FileReader) (s : Settings) (path : Path) : Prop :=
  ∃ o, analyze files s = .ok o ∧ o.exit.toNat = 2 ∧ o.output = ""
    ∧ ∃ before reason, o.log = before ++ [logEntry .error (path.written ++ ": " ++ reason)]

/-- The path of the settings file that an analysis is asked to use. -/
def SettingsAt (s : Settings) (path : Path) : Prop :=
  ∃ source, s.config = some source ∧ source ≠ "" ∧ Path.ofString source = path

/-- The settings and the dumps before the one at a path are loaded, and this one is refused. -/
def RefusesDump (files : FileReader) (s : Settings) (path : Path) : Prop :=
  (∃ c, configurationOf files s = .ok c)
    ∧ ∃ before dump after, s.dumps = before ++ dump :: after ∧ Path.ofString dump = path
      ∧ (∀ other ∈ before, ∃ p, programOf files other = .ok p)
      ∧ ∃ fault, programOf files dump = .error fault ∧ fault.breakdown? = none

variable {files : FileReader} {s : Settings} {path : Path}

theorem failsOver_of_analyze (reason : String) (log : List Log.Entry)
    (h : analyze files s = .ok (fail (path.written ++ ": " ++ reason) log)) : FailsOver files s path :=
  ⟨_, h, rfl, rfl, log, reason, rfl⟩

theorem configurationOf_eq_load (h : SettingsAt s path) :
    configurationOf files s = Configuration.load Rule.all files path := by
  obtain ⟨source, hconfig, hsource, rfl⟩ := h
  rw [configurationOf, Loader.configurationOf, hconfig]
  exact if_neg hsource

theorem failsOver_of_settings (hs : SettingsAt s path) {fault : Configuration.Fault}
    (h : Configuration.load Rule.all files path = .error (.refused fault)) : FailsOver files s path := by
  obtain ⟨log, hlog⟩ := loadConfiguration_of_refused ((configurationOf_eq_load hs).trans h)
  apply failsOver_of_analyze (fault.cause.message path.written) log
  rw [← Configuration.Fault.message_of_source (Configuration.source_of_refused Rule.all h), analyze,
    Loader.analyze, hlog]
  rfl

theorem analyze_of_broken {cause : Breakdown} (h : configurationOf files s = .error (.broken cause)) :
    analyze files s = .error cause := by
  rw [analyze, Loader.analyze, loadConfiguration_of_broken h]
  rfl

theorem loadPrograms_of_before {before : List String} {dump : String} {fault : Snapshot.LoadFault}
    (hbefore : ∀ other ∈ before, ∃ p, programOf files other = .ok p) (h : programOf files dump = .error fault)
    (hfault : fault.breakdown? = none) (after : List String) :
    ∃ log, loadPrograms files (before ++ dump :: after)
      = .ok (.refused ((Path.ofString dump).written ++ ": " ++ fault.reason) log) := by
  induction before with
  | nil => exact ⟨[], loadPrograms_of_error h hfault⟩
  | cons other before ih =>
    rw [List.forall_mem_cons] at hbefore
    obtain ⟨p, hp⟩ := hbefore.1
    obtain ⟨log, hlog⟩ := ih hbefore.2
    exact loadPrograms_of_ok_of_refused hp hlog

theorem failsOver_of_dump (h : RefusesDump files s path) : FailsOver files s path := by
  obtain ⟨⟨c, hc⟩, before, dump, after, hdumps, rfl, hbefore, fault, hfault, hbreakdown⟩ := h
  obtain ⟨log, hconfiguration⟩ := loadConfiguration_of_ok hc
  obtain ⟨log', hprograms⟩ := loadPrograms_of_before hbefore hfault hbreakdown after
  apply failsOver_of_analyze fault.reason (log ++ log')
  rw [analyze, Loader.analyze, hconfiguration]
  show loadPrograms files s.dumps >>= _ = _
  rw [hdumps, hprograms]
  rfl

/-- A settings file gives a configuration or is refused under its path, whatever its octets, unless they are no text or
its path is none, which in a tree of files it is only by a NUL character. An analysis fails over settings that are
refused as it does over a dump that is refused. Over the others it breaks down. -/
theorem settings_returned_or_refused (files : FileReader) (path : Path) :
    (∀ rules, ¬ Configuration.Unusable files path →
        Configuration.ReturnedOrRefused path (Configuration.load rules files path))
      ∧ (∀ rules, (∃ cause, Configuration.load rules files path = .error (.broken cause))
        ↔ Configuration.Unusable files path)
      ∧ (∀ t : FileTree, t.read path = .error .nulInPath ↔ path.hasNul = true)
      ∧ (∀ s, SettingsAt s path →
        (∀ fault, Configuration.load Rule.all files path = .error (.refused fault) → FailsOver files s path)
        ∧ ∀ cause, Configuration.load Rule.all files path = .error (.broken cause) → analyze files s = .error cause)
      ∧ ∀ s, RefusesDump files s path → FailsOver files s path := by
  refine ⟨?_, ?_, ?_, ?_, ?_⟩
  · intro rules h
    exact Configuration.returnedOrRefused_of_not_unusable rules h
  · intro rules
    exact Configuration.exists_broken_iff rules
  · intro t
    exact t.read_eq_nulInPath_iff path
  · intro s hs
    constructor
    · intro fault hfault
      exact failsOver_of_settings hs hfault
    · intro cause hcause
      exact analyze_of_broken ((configurationOf_eq_load hs).trans hcause)
  · intro s hs
    exact failsOver_of_dump hs

/-- A settings file with a level that does not exist. -/
def loudSettings : String := "dotnet_diagnostic.GMDTR01.severity = loud\n"

theorem settings_returned_or_refused_loud :
    ¬ Configuration.Unusable (Snapshot.everywhere loudSettings) (Path.ofString "c.ini")
      ∧ ∃ fault, Configuration.load Rule.all (Snapshot.everywhere loudSettings) (Path.ofString "c.ini")
          = .error (.refused fault) ∧ fault.source = some "c.ini"
        ∧ FailsOver (Snapshot.everywhere loudSettings) { dumps := ["a.json"], config := some "c.ini" }
          (Path.ofString "c.ini") := by
  have hending : Ending.ofConfiguration
      (Configuration.load Rule.all (Snapshot.everywhere loudSettings) (Path.ofString "c.ini")) = .refused := by
    decide +kernel
  obtain ⟨fault, hfault⟩ := (Ending.ofConfiguration_eq_refused_iff _).mp hending
  obtain ⟨hreturned, hbroken, -, hsettings, -⟩ :=
    settings_returned_or_refused (Snapshot.everywhere loudSettings) (Path.ofString "c.ini")
  have husable : ¬ Configuration.Unusable (Snapshot.everywhere loudSettings) (Path.ofString "c.ini") := by
    intro hunusable
    obtain ⟨cause, hcause⟩ := (hbroken Rule.all).mpr hunusable
    exact nomatch hfault.symm.trans hcause
  refine ⟨husable, ?_⟩
  rcases hreturned Rule.all husable with ⟨c, hc⟩ | ⟨fault, hfault, hsource⟩
  · exact nomatch hfault.symm.trans hc
  · exact ⟨fault, hfault, hsource, (hsettings _ ⟨"c.ini", rfl, by decide, rfl⟩).1 fault hfault⟩

/-- The octet that stands in no text. -/
def noText : FileReader := fun _ => .ok [0xff]

/-- A settings file that is no text is neither returned nor refused, and no exit code follows. The same octet is refused
as a dump. -/
theorem settings_without_text_break_down :
    Configuration.load Rule.all noText (Path.ofString "c.ini")
        = .error (.broken (.settingsNotText ⟨.badStart, 0, 0xff, 1⟩))
      ∧ analyze noText { dumps := ["a.json"], config := some "c.ini" }
        = .error (.settingsNotText ⟨.badStart, 0, 0xff, 1⟩)
      ∧ analyze noText { dumps := ["a.json"] } = .ok (fail "a.json: invalid UTF-8: invalid start byte" []) := by
  have hload : Configuration.load Rule.all noText (Path.ofString "c.ini")
      = .error (.broken (.settingsNotText ⟨.badStart, 0, 0xff, 1⟩)) := rfl
  refine ⟨hload, analyze_of_broken ((configurationOf_eq_load ⟨"c.ini", rfl, by decide, rfl⟩).trans hload), ?_⟩
  rfl

end CommandLine

end Mediation
