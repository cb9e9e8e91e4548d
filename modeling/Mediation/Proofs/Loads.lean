import Mathlib.Data.List.Forall2
import Mediation.CommandLine.Session

/-!
# Loads

An analysis loads its configuration and then its dumps, up to the first that is refused. What follows depends on what
the loads return only, so it is stated for any loader.
-/

namespace Mediation.CommandLine

/-! ### How loads end -/

/-- How the load of a file ends. -/
inductive Ending where
  | returned
  | refused
  | brokeDown
  deriving DecidableEq

def Ending.ofConfiguration : Except Configuration.LoadFault Configuration → Ending
  | .ok _ => .returned
  | .error (.refused _) => .refused
  | .error (.broken _) => .brokeDown

def Ending.ofProgram : Except Snapshot.LoadFault Program → Ending
  | .ok _ => .returned
  | .error fault => if fault.breakdown?.isNone then .refused else .brokeDown

theorem Ending.ofProgram_eq_refused_iff (x : Except Snapshot.LoadFault Program) :
    ofProgram x = .refused ↔ ∃ fault, x = .error fault ∧ fault.breakdown? = none := by
  cases x with
  | ok => simp [ofProgram]
  | error fault => cases hbreakdown : fault.breakdown? <;> simp [ofProgram, hbreakdown]

theorem Ending.ofProgram_eq_returned_iff (x : Except Snapshot.LoadFault Program) :
    ofProgram x = .returned ↔ ∃ p, x = .ok p := by
  cases x with
  | ok => simp [ofProgram]
  | error fault => cases hbreakdown : fault.breakdown? <;> simp [ofProgram, hbreakdown]

theorem Ending.ofConfiguration_eq_refused_iff (x : Except Configuration.LoadFault Configuration) :
    ofConfiguration x = .refused ↔ ∃ fault, x = .error (.refused fault) := by
  rcases x with (fault | cause) | c <;> simp [ofConfiguration]

theorem Ending.ofConfiguration_eq_returned_iff (x : Except Configuration.LoadFault Configuration) :
    ofConfiguration x = .returned ↔ ∃ c, x = .ok c := by
  rcases x with (fault | cause) | c <;> simp [ofConfiguration]

/-- Every load that is made returns or is refused. The first that is refused is the last one made. -/
inductive Settled : List Ending → Prop where
  | nil : Settled []
  | returned {rest : List Ending} (h : Settled rest) : Settled (.returned :: rest)
  | refused (rest : List Ending) : Settled (.refused :: rest)

theorem Settled.of_returned {rest : List Ending} (h : Settled (.returned :: rest)) : Settled rest := by
  cases h
  assumption

theorem Settled.eq_returned {endings : List Ending} (h : Settled endings) (hrefused : .refused ∉ endings) :
    ∀ ending ∈ endings, ending = .returned := by
  induction h with
  | nil => simp
  | returned _ ih =>
    rw [List.mem_cons, not_or] at hrefused
    exact List.forall_mem_cons.mpr ⟨rfl, ih hrefused.2⟩
  | refused rest => exact absurd List.mem_cons_self hrefused

/-! ### What is loaded -/

/-- The configuration that the settings ask for; without a file it is empty. -/
def Loader.configurationOf (l : Loader) (s : Settings) : Except Configuration.LoadFault Configuration :=
  let source := s.config.getD ""
  if source = "" then .ok {} else l.configuration (Path.ofString source)

def Loader.programOf (l : Loader) (dump : String) : Except Snapshot.LoadFault Program :=
  l.program (Path.ofString dump)

/-- How the loads of an analysis end, in their order. -/
def Loader.endings (l : Loader) (s : Settings) : List Ending :=
  .ofConfiguration (l.configurationOf s) :: s.dumps.map fun dump => .ofProgram (l.programOf dump)

/-- The configuration and the programs that the loads return. -/
structure LoadsAs (l : Loader) (s : Settings) (c : Configuration) (programs : List Program) : Prop where
  configuration : l.configurationOf s = .ok c
  programs : List.Forall₂ (fun dump p => l.programOf dump = .ok p) s.dumps programs

theorem LoadsAs.unique {l : Loader} {s : Settings} {c c' : Configuration} {programs programs' : List Program}
    (h : LoadsAs l s c programs) (h' : LoadsAs l s c' programs') : c = c' ∧ programs = programs' := by
  have hprogram : Relator.RightUnique fun dump p => l.programOf dump = .ok p :=
    fun _ _ _ hp hp' => Except.ok.inj (hp.symm.trans hp')
  exact ⟨Except.ok.inj (h.configuration.symm.trans h'.configuration),
    List.right_unique_forall₂' hprogram h.programs h'.programs⟩

theorem loadConfiguration_of_ok {l : Loader} {s : Settings} {c : Configuration}
    (h : l.configurationOf s = .ok c) : ∃ log, l.loadConfiguration s = .ok (.ready c log) := by
  rw [Loader.configurationOf] at h
  rw [Loader.loadConfiguration]
  dsimp only at h ⊢
  split at h
  · rename_i hsource
    rw [if_pos hsource]
    obtain rfl := Except.ok.inj h
    exact ⟨_, rfl⟩
  · rename_i hsource
    rw [if_neg hsource, h]
    exact ⟨_, rfl⟩

theorem loadConfiguration_of_refused {l : Loader} {s : Settings} {fault : Configuration.Fault}
    (h : l.configurationOf s = .error (.refused fault)) :
    ∃ log, l.loadConfiguration s = .ok (.refused fault.message log) := by
  rw [Loader.configurationOf] at h
  rw [Loader.loadConfiguration]
  dsimp only at h ⊢
  split at h
  · simp at h
  · rename_i hsource
    rw [if_neg hsource, h]
    exact ⟨_, rfl⟩

theorem loadConfiguration_of_broken {l : Loader} {s : Settings} {cause : Breakdown}
    (h : l.configurationOf s = .error (.broken cause)) : l.loadConfiguration s = .error cause := by
  rw [Loader.configurationOf] at h
  rw [Loader.loadConfiguration]
  dsimp only at h ⊢
  split at h
  · cases h
  · rename_i hsource
    rw [if_neg hsource, h]

section Dumps

variable {l : Loader} {dump : String} {dumps : List String}

theorem loadPrograms_of_error {fault : Snapshot.LoadFault} (h : l.programOf dump = .error fault)
    (hbreakdown : fault.breakdown? = none) :
    l.loadPrograms (dump :: dumps)
      = .ok (.refused (Snapshot.refusal (some (Path.ofString dump)) fault.reason) []) := by
  rw [Loader.programOf] at h
  rw [Loader.loadPrograms, h]
  dsimp only
  rw [hbreakdown]

variable {p : Program}

theorem loadPrograms_of_ok_of_refused (h : l.programOf dump = .ok p) {message : String} {log : List Log.Entry}
    (hrest : l.loadPrograms dumps = .ok (.refused message log)) :
    ∃ log, l.loadPrograms (dump :: dumps) = .ok (.refused message log) := by
  rw [Loader.programOf] at h
  rw [Loader.loadPrograms, h, hrest]
  exact ⟨_, rfl⟩

theorem loadPrograms_of_ok_of_ready (h : l.programOf dump = .ok p) {programs : List Program}
    {log : List Log.Entry} (hrest : l.loadPrograms dumps = .ok (.ready programs log)) :
    ∃ log, l.loadPrograms (dump :: dumps) = .ok (.ready (p :: programs) log) := by
  rw [Loader.programOf] at h
  rw [Loader.loadPrograms, h, hrest]
  exact ⟨_, rfl⟩

theorem loadPrograms_of_refused (h : Settled (dumps.map fun dump => .ofProgram (l.programOf dump)))
    (hrefused : .refused ∈ dumps.map fun dump => Ending.ofProgram (l.programOf dump)) :
    ∃ message log, l.loadPrograms dumps = .ok (.refused message log) := by
  induction dumps with
  | nil => simp at hrefused
  | cons dump dumps ih =>
    rw [List.map_cons] at h hrefused
    cases hending : Ending.ofProgram (l.programOf dump) with
    | returned =>
      obtain ⟨p, hp⟩ := (Ending.ofProgram_eq_returned_iff _).mp hending
      rw [hending] at h hrefused
      obtain ⟨message, log, hrest⟩ := ih h.of_returned (by simpa using hrefused)
      exact ⟨message, loadPrograms_of_ok_of_refused hp hrest⟩
    | refused =>
      obtain ⟨fault, hfault, hbreakdown⟩ := (Ending.ofProgram_eq_refused_iff _).mp hending
      exact ⟨_, _, loadPrograms_of_error hfault hbreakdown⟩
    | brokeDown =>
      rw [hending] at h
      cases h

theorem loadPrograms_of_forall₂ {programs : List Program}
    (h : List.Forall₂ (fun dump p => l.programOf dump = .ok p) dumps programs) :
    ∃ log, l.loadPrograms dumps = .ok (.ready programs log) := by
  induction h with
  | nil => exact ⟨[], rfl⟩
  | cons hp _ ih =>
    obtain ⟨log, hrest⟩ := ih
    exact loadPrograms_of_ok_of_ready hp hrest

theorem ofProgram_eq_returned {programs : List Program}
    (h : List.Forall₂ (fun dump p => l.programOf dump = .ok p) dumps programs) :
    ∀ dump ∈ dumps, Ending.ofProgram (l.programOf dump) = .returned := by
  induction h with
  | nil => simp
  | cons hp _ ih => exact List.forall_mem_cons.mpr ⟨(Ending.ofProgram_eq_returned_iff _).mpr ⟨_, hp⟩, ih⟩

theorem exists_programs (h : ∀ dump ∈ dumps, Ending.ofProgram (l.programOf dump) = .returned) :
    ∃ programs, List.Forall₂ (fun dump p => l.programOf dump = .ok p) dumps programs := by
  induction dumps with
  | nil => exact ⟨[], .nil⟩
  | cons dump dumps ih =>
    obtain ⟨p, hp⟩ := (Ending.ofProgram_eq_returned_iff _).mp (h dump List.mem_cons_self)
    obtain ⟨programs, hprograms⟩ := ih fun dump hdump => h dump (List.mem_cons_of_mem _ hdump)
    exact ⟨p :: programs, .cons hp hprograms⟩

end Dumps

section Both

variable {l : Loader} {s : Settings}

theorem exists_loadsAs (h : Settled (l.endings s)) (hrefused : .refused ∉ l.endings s) :
    ∃ c programs, LoadsAs l s c programs := by
  have hreturned := h.eq_returned hrefused
  obtain ⟨c, hc⟩ := (Ending.ofConfiguration_eq_returned_iff _).mp (hreturned _ List.mem_cons_self)
  obtain ⟨programs, hprograms⟩ := exists_programs fun dump hdump =>
    hreturned _ (List.mem_cons_of_mem _ (List.mem_map_of_mem hdump))
  exact ⟨c, programs, hc, hprograms⟩

theorem LoadsAs.not_refused {c : Configuration} {programs : List Program} (h : LoadsAs l s c programs) :
    .refused ∉ l.endings s := by
  rw [Loader.endings, h.configuration, List.mem_cons, List.mem_map]
  rintro (hconfiguration | ⟨dump, hdump, hrefused⟩)
  · cases hconfiguration
  · rw [ofProgram_eq_returned h.programs dump hdump] at hrefused
    cases hrefused

end Both

end Mediation.CommandLine
