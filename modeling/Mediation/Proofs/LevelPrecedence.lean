import Mathlib.Data.List.Nodup
import Mediation.Proofs.LevelSettings
import Mediation.Rule.Catalog

/-!
# Which setting decides

The last setting about a rule decides on its level, before any setting about its category and wherever the two stand.
It also decides if it only says that the rule keeps its standard level. Without one the last setting about the category
decides. A configuration holds each rule once: as suppressed, with a severity, or not at all.
-/

namespace Mediation

/-! ### The word that a rule is given -/

namespace RuleLevel

/-- The word in the value of a setting, before the first number sign and in lower case. -/
def word (value : String) : String := Text.lower (String.ofList (Text.strip (value.toList.takeWhile (· ≠ '#'))))

/-- The words that stand for severities. -/
def severityWords : List (String × Severity) := [("error", .error), ("warning", .warning), ("suggestion", .info)]

theorem ofWord?_eq_suppressed_iff (w : String) : ofWord? w = some .suppressed ↔ w = "none" ∨ w = "silent" := by
  unfold ofWord?
  split <;> simp_all

theorem ofWord?_eq_severity_iff (w : String) (s : Severity) :
    ofWord? w = some (.severity s) ↔ (w, s) ∈ severityWords := by
  unfold ofWord? severityWords
  split <;> simp_all [eq_comm]

theorem ofWord?_eq_standard_iff (w : String) : ofWord? w = some .standard ↔ w = "default" := by
  unfold ofWord?
  split <;> simp_all

end RuleLevel

namespace Rule

/-- A setting with the identifier of a rule, in any case. -/
def IsSetBy (r : Rule) (item : String × String) : Prop :=
  ∃ id, item.1 = LevelTarget.ruleStart ++ id ++ LevelTarget.tail ∧ Text.upper id = r.id

/-- A setting with the category of a rule, in any case. -/
def IsSetByCategory (r : Rule) (item : String × String) : Prop :=
  ∃ name, item.1 = LevelTarget.categoryStart ++ name ++ LevelTarget.tail ∧ Text.lower name = Text.lower r.category

/-- The word that settings give to a rule: that of its own last setting, else that of the last setting of its category,
else the one for the standard level. -/
inductive GivenWord (r : Rule) (items : List (String × String)) : String → Prop
  | own {item : String × String} (hlast : IsLast r.IsSetBy items item) : GivenWord r items (RuleLevel.word item.2)
  | category {item : String × String} (hown : ∀ item ∈ items, ¬ r.IsSetBy item)
      (hlast : IsLast r.IsSetByCategory items item) : GivenWord r items (RuleLevel.word item.2)
  | standard (hown : ∀ item ∈ items, ¬ r.IsSetBy item) (hcategory : ∀ item ∈ items, ¬ r.IsSetByCategory item) :
      GivenWord r items "default"

theorem exists_givenWord (r : Rule) (items : List (String × String)) : ∃ w, r.GivenWord items w := by
  by_cases hown : ∃ item ∈ items, r.IsSetBy item
  · obtain ⟨item, hlast⟩ := exists_isLast hown
    exact ⟨_, .own hlast⟩
  · push Not at hown
    by_cases hcategory : ∃ item ∈ items, r.IsSetByCategory item
    · obtain ⟨item, hlast⟩ := exists_isLast hcategory
      exact ⟨_, .category hown hlast⟩
    · push Not at hcategory
      exact ⟨_, .standard hown hcategory⟩

variable {r : Rule} {items : List (String × String)} {result : RuleLevels}

theorem isSetBy_iff (hid : r.id ≠ "") (item : String × String) :
    r.IsSetBy item ↔ Configuration.IsAbout (.rule r.id) item := (LevelTarget.ofKey?_eq_rule_iff hid).symm

theorem isSetByCategory_iff (item : String × String) :
    r.IsSetByCategory item ↔ Configuration.IsAbout (.category (Text.lower r.category)) item :=
  LevelTarget.ofKey?_eq_category_iff.symm

/-- The level of a rule is what the word that it is given stands for. -/
theorem GivenWord.ofWord?_eq (hid : r.id ≠ "") (h : Configuration.levels items = .ok result) {w : String}
    (hw : r.GivenWord items w) : RuleLevel.ofWord? w = some (result.levelOf r) := by
  have hvalid := (Configuration.exists_levels_iff items).mp ⟨result, h⟩
  have hunset : (∀ item ∈ items, ¬ r.IsSetBy item) → result.at? (.rule r.id) = none := by
    intro hown
    apply Configuration.at?_eq_none h
    intro item hitem
    rw [← isSetBy_iff hid]
    exact hown item hitem
  rw [RuleLevels.levelOf_eq]
  cases hw with
  | @own item hlast =>
    have habout := hlast.congr fun other _ => isSetBy_iff hid other
    obtain ⟨level, hlevel⟩ := Option.isSome_iff_exists.mp (hvalid item hlast.mem _ habout.holds)
    rw [Configuration.at?_of_isLast h habout, hlevel]
    exact hlevel
  | @category item hown hlast =>
    have habout := hlast.congr fun other _ => isSetByCategory_iff other
    obtain ⟨level, hlevel⟩ := Option.isSome_iff_exists.mp (hvalid item hlast.mem _ habout.holds)
    rw [hunset hown, Configuration.at?_of_isLast h habout, hlevel]
    exact hlevel
  | standard hown hcategory =>
    have hcategory' : result.at? (.category (Text.lower r.category)) = none := by
      apply Configuration.at?_eq_none h
      intro item hitem
      rw [← isSetByCategory_iff]
      exact hcategory item hitem
    rw [hunset hown, hcategory']
    rfl

end Rule

/-! ### What a configuration holds -/

namespace Configuration

theorem mem_suppressed_setLevel (c : Configuration) (ruleId id : String) (level : RuleLevel) :
    id ∈ (c.setLevel ruleId level).suppressed ↔ id ∈ c.suppressed ∨ ruleId = id ∧ level = .suppressed := by
  cases level <;> simp [setLevel, or_comm, eq_comm]

theorem get?_severities_setLevel {c : Configuration} {ruleId : String} (hnew : c.severities.get? ruleId = none)
    (id : String) (level : RuleLevel) (s : Severity) :
    (c.setLevel ruleId level).severities.get? id = some s
      ↔ c.severities.get? id = some s ∨ ruleId = id ∧ level = .severity s := by
  cases level with
  | severity value =>
    by_cases hid : id = ruleId
    · simp [setLevel, Table.get?_insert, hid, hnew]
    · simp [setLevel, Table.get?_insert, hid, Ne.symm hid]
  | suppressed => simp [setLevel]
  | standard => simp [setLevel]

theorem ofLevels_concat (rules : List Rule) (r : Rule) (levels : RuleLevels) :
    ofLevels (rules ++ [r]) levels = (ofLevels rules levels).setLevel r.id (levels.levelOf r) := by
  rw [ofLevels, List.foldl_append]
  rfl

theorem mem_suppressed_ofLevels (rules : List Rule) (levels : RuleLevels) (id : String) :
    id ∈ (ofLevels rules levels).suppressed ↔ ∃ r ∈ rules, r.id = id ∧ levels.levelOf r = .suppressed := by
  induction rules using List.reverseRecOn with
  | nil => simp [ofLevels]
  | append_singleton rules r ih =>
    rw [ofLevels_concat, mem_suppressed_setLevel, ih]
    simp only [List.mem_append, List.mem_singleton, or_and_right, exists_or, exists_eq_left]

theorem get?_severities_ofLevels {rules : List Rule} (hids : (rules.map Rule.id).Nodup) (levels : RuleLevels)
    (id : String) (s : Severity) :
    (ofLevels rules levels).severities.get? id = some s
      ↔ ∃ r ∈ rules, r.id = id ∧ levels.levelOf r = .severity s := by
  induction rules using List.reverseRecOn generalizing id s with
  | nil => simp [ofLevels]
  | append_singleton rules r ih =>
    rw [List.map_append, List.nodup_append] at hids
    have hnew : (ofLevels rules levels).severities.get? r.id = none := by
      rw [Option.eq_none_iff_forall_ne_some]
      intro s' hs'
      obtain ⟨other, hother, hid, -⟩ := (ih hids.1 r.id s').mp hs'
      exact hids.2.2 other.id (List.mem_map_of_mem hother) r.id (by simp) hid
    rw [ofLevels_concat, get?_severities_setLevel hnew, ih hids.1]
    simp only [List.mem_append, List.mem_singleton, or_and_right, exists_or, exists_eq_left]

/-- A configuration holds what settings say about rules, and nothing about other rules. -/
structure Follows (c : Configuration) (rules : List Rule) (items : List (String × String)) : Prop where
  given : ∀ r ∈ rules, ∃ w, r.GivenWord items w
  suppressed : ∀ r ∈ rules, ∀ w, r.GivenWord items w → (r.id ∈ c.suppressed ↔ w = "none" ∨ w = "silent")
  severity : ∀ r ∈ rules, ∀ w, r.GivenWord items w → ∀ s,
    (c.severities.get? r.id = some s ↔ (w, s) ∈ RuleLevel.severityWords)
  standard : ∀ r ∈ rules, ∀ w, r.GivenWord items w →
    (r.id ∉ c.suppressed ∧ c.severities.get? r.id = none ↔ w = "default")
  disjoint : ∀ id ∈ c.suppressed, id ∉ c.severities.keys
  known : ∀ id, id ∈ c.suppressed ∨ id ∈ c.severities.keys → id ∈ rules.map Rule.id

section OfLevels

variable {rules : List Rule} (hids : (rules.map Rule.id).Nodup) {r : Rule} (hr : r ∈ rules) (levels : RuleLevels)

include hids hr

theorem eq_of_id_eq {other : Rule} (hother : other ∈ rules) (hid : other.id = r.id) : other = r :=
  List.inj_on_of_nodup_map hids hother hr hid

theorem id_mem_suppressed_ofLevels_iff :
    r.id ∈ (ofLevels rules levels).suppressed ↔ levels.levelOf r = .suppressed := by
  rw [mem_suppressed_ofLevels]
  constructor
  · rintro ⟨other, hother, hid, hlevel⟩
    rw [← eq_of_id_eq hids hr hother hid, hlevel]
  · intro hlevel
    exact ⟨r, hr, rfl, hlevel⟩

theorem get?_id_severities_ofLevels_iff (s : Severity) :
    (ofLevels rules levels).severities.get? r.id = some s ↔ levels.levelOf r = .severity s := by
  rw [get?_severities_ofLevels hids]
  constructor
  · rintro ⟨other, hother, hid, hlevel⟩
    rw [← eq_of_id_eq hids hr hother hid, hlevel]
  · intro hlevel
    exact ⟨r, hr, rfl, hlevel⟩

end OfLevels

theorem follows_ofLevels {rules : List Rule} (hids : (rules.map Rule.id).Nodup) (hne : ∀ r ∈ rules, r.id ≠ "")
    {items : List (String × String)} {result : RuleLevels} (h : levels items = .ok result) :
    (ofLevels rules result).Follows rules items := by
  have hword : ∀ r ∈ rules, ∀ w, r.GivenWord items w → RuleLevel.ofWord? w = some (result.levelOf r) :=
    fun r hr w hw => hw.ofWord?_eq (hne r hr) h
  constructor
  case given => exact fun r _ => r.exists_givenWord items
  case suppressed =>
    intro r hr w hw
    rw [id_mem_suppressed_ofLevels_iff hids hr, ← RuleLevel.ofWord?_eq_suppressed_iff, hword r hr w hw,
      Option.some.injEq]
  case severity =>
    intro r hr w hw s
    rw [get?_id_severities_ofLevels_iff hids hr, ← RuleLevel.ofWord?_eq_severity_iff, hword r hr w hw,
      Option.some.injEq]
  case standard =>
    intro r hr w hw
    rw [Option.eq_none_iff_forall_ne_some, id_mem_suppressed_ofLevels_iff hids hr, ← RuleLevel.ofWord?_eq_standard_iff,
      hword r hr w hw, Option.some.injEq]
    simp only [ne_eq, get?_id_severities_ofLevels_iff hids hr]
    cases result.levelOf r <;> simp
  case disjoint =>
    intro id hid hkey
    obtain ⟨r, hr, rfl, hlevel⟩ := (mem_suppressed_ofLevels rules result id).mp hid
    obtain ⟨s, hs⟩ := (Table.mem_keys_iff _ _).mp hkey
    rw [get?_id_severities_ofLevels_iff hids hr, hlevel] at hs
    cases hs
  case known =>
    rintro id (hid | hkey)
    · obtain ⟨r, hr, rfl, -⟩ := (mem_suppressed_ofLevels rules result id).mp hid
      exact List.mem_map_of_mem hr
    · obtain ⟨s, hs⟩ := (Table.mem_keys_iff _ _).mp hkey
      obtain ⟨r, hr, rfl, -⟩ := (get?_severities_ofLevels hids result id s).mp hs
      exact List.mem_map_of_mem hr

/-- The settings in an accepted text decide on every rule: the last one with its identifier, else the last one with its
category. A rule is suppressed, has a severity or keeps its standard level exactly as the word there says. -/
theorem parse_follows_last_settings {rules : List Rule} (hids : (rules.map Rule.id).Nodup)
    (hne : ∀ r ∈ rules, r.id ≠ "") {source : Option String} {text : String} {c : Configuration}
    (h : parse rules source text = .ok c) :
    ∃ document, Setting.Document.read text = .ok document ∧ c.Follows rules document.items := by
  rw [parse, levelsOfText] at h
  cases hread : Setting.Document.read text with
  | error badLines => simp [hread] at h
  | ok document =>
    refine ⟨document, rfl, ?_⟩
    cases hlevels : levels document.items with
    | error cause => simp [hread, hlevels] at h
    | ok result =>
      obtain rfl : ofLevels rules result = c := by simpa [hread, hlevels] using h
      exact follows_ofLevels hids hne hlevels

/-- A text is accepted if it can be read and its settings are valid. -/
theorem exists_parse {text : String} {document : Setting.Document} (hread : Setting.Document.read text = .ok document)
    (hvalid : ValidSettings document.items) (rules : List Rule) (source : Option String) :
    ∃ c, parse rules source text = .ok c := by
  obtain ⟨result, hresult⟩ := (exists_levels_iff document.items).mpr hvalid
  refine ⟨ofLevels rules result, ?_⟩
  simp [parse, levelsOfText, hread, hresult]

/-- A setting that keeps the standard level of a rule, before one that silences its category. -/
def shieldText : String :=
  "dotnet_diagnostic.gmdtr07.severity = Default # kept\n"
    ++ "[*.cs]\ndotnet_analyzer_diagnostic.category-design.severity = none\n"

theorem read_shieldText :
    (Setting.Document.read shieldText).toOption.map Setting.Document.items
      = some [("dotnet_diagnostic.gmdtr07.severity", "Default # kept"),
        ("dotnet_analyzer_diagnostic.category-design.severity", "none")] := by
  decide +kernel

theorem exists_read_shieldText :
    ∃ document, Setting.Document.read shieldText = .ok document
      ∧ document.items = [("dotnet_diagnostic.gmdtr07.severity", "Default # kept"),
        ("dotnet_analyzer_diagnostic.category-design.severity", "none")] := by
  have h := read_shieldText
  generalize Setting.Document.read shieldText = read at h
  cases read with
  | error => simp [Except.toOption] at h
  | ok document => exact ⟨document, rfl, by simpa [Except.toOption] using h⟩

/-- The category is silenced for its other rules. -/
theorem parse_follows_last_settings_shielded :
    (Rule.all.map Rule.id).Nodup ∧ (∀ r ∈ Rule.all, r.id ≠ "")
      ∧ ∃ c, parse Rule.all none shieldText = .ok c ∧ "GMDTR07" ∉ c.suppressed
        ∧ c.severities.get? "GMDTR07" = none ∧ "GMDTR08" ∈ c.suppressed := by
  have hids : (Rule.all.map Rule.id).Nodup := by decide
  have hne : ∀ r ∈ Rule.all, r.id ≠ "" := by decide
  obtain ⟨document, hread, hitems⟩ := exists_read_shieldText
  have hdefault : (RuleLevel.ofValue? "Default # kept").isSome = true := by decide +kernel
  have hnone : (RuleLevel.ofValue? "none").isSome = true := by decide +kernel
  have hvalid : ValidSettings document.items := by
    rw [hitems]
    simp [ValidSettings, hdefault, hnone]
  obtain ⟨c, hc⟩ := exists_parse hread hvalid Rule.all none
  obtain ⟨document', hread', hfollows⟩ := parse_follows_last_settings hids hne hc
  obtain rfl : document = document' := Except.ok.inj (hread.symm.trans hread')
  have hown : Rule.genericDispatch.IsSetBy ("dotnet_diagnostic.gmdtr07.severity", "Default # kept") :=
    ⟨"gmdtr07", by decide +kernel, by decide +kernel⟩
  have hnot : ∀ r ∈ Rule.all, ¬ r.IsSetBy ("dotnet_analyzer_diagnostic.category-design.severity", "none") := by
    intro r hr
    rw [Rule.isSetBy_iff (hne r hr), IsAbout]
    revert r
    decide +kernel
  have hlast : IsLast Rule.genericDispatch.IsSetBy document.items
      ("dotnet_diagnostic.gmdtr07.severity", "Default # kept") := by
    rw [hitems]
    exact ⟨[], _, rfl, hown, by simpa using hnot Rule.genericDispatch (by decide)⟩
  have hkept := (hfollows.standard Rule.genericDispatch (by decide) _ (.own hlast)).mpr (by decide +kernel)
  have hother : ∀ item ∈ document.items, ¬ Rule.cancellationToken.IsSetBy item := by
    have hfirst : ¬ Rule.cancellationToken.IsSetBy ("dotnet_diagnostic.gmdtr07.severity", "Default # kept") := by
      rw [Rule.isSetBy_iff (by decide), IsAbout]
      decide +kernel
    rw [hitems]
    simpa using ⟨hfirst, hnot Rule.cancellationToken (by decide)⟩
  have hcategory : IsLast Rule.cancellationToken.IsSetByCategory document.items
      ("dotnet_analyzer_diagnostic.category-design.severity", "none") := by
    rw [hitems]
    exact ⟨[_], [], rfl, ⟨"design", by decide +kernel, by decide +kernel⟩, by simp⟩
  have hsilent := (hfollows.suppressed Rule.cancellationToken (by decide) _ (.category hother hcategory)).mpr
    (Or.inl (by decide +kernel))
  exact ⟨hids, hne, c, hc, hkept.1, hkept.2, hsilent⟩

end Configuration

end Mediation
