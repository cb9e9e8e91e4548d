import Mediation.Proofs.LevelPrecedence
import Mediation.Proofs.RuleKeys
import Mediation.Proofs.SettingOutline

/-!
# Which line of a settings file decides

A document delivers its settings section by section, in the order of the first headers, and each section with the items
of the default section in front. For the last value of a key it makes no difference that a section has each key once, so
the lines of a file can be delivered in the same way. The last line with the key of a rule in this order gives its
level. It is the last such line of the file if no header comes twice and none is that of the default section. Otherwise
a line may be overridden by one that stands above it.
-/

namespace Mediation

/-- The value beside a key. -/
def valueAt? {κ ν : Type} [DecidableEq κ] (k : κ) (e : κ × ν) : Option ν := if e.1 = k then some e.2 else none

theorem isSome_valueAt?_iff {κ ν : Type} [DecidableEq κ] (k : κ) (e : κ × ν) :
    (valueAt? k e).isSome = true ↔ e.1 = k := by
  rw [valueAt?]
  split <;> simp [*]

theorem getLast?_toList {α : Type} (value? : Option α) : value?.toList.getLast? = value? := by
  cases value? <;> rfl

namespace Table

variable {κ ν : Type} [DecidableEq κ]

theorem filterMap_valueAt?_eq_lookup {es : List (κ × ν)} (h : (es.map Prod.fst).Nodup) (k : κ) :
    es.filterMap (valueAt? k) = (lookup k es).toList := by
  induction es with
  | nil => rfl
  | cons e es ih =>
    rw [List.map_cons, List.nodup_cons] at h
    by_cases hkey : e.1 = k
    · have hnone : lookup k es = none := by
        rw [Option.eq_none_iff_forall_ne_some]
        intro v hv
        exact h.1 (hkey ▸ List.mem_map_of_mem ((lookup_eq_some_iff h.2 k v).mp hv))
      simp [valueAt?, lookup, hkey, ih h.2, hnone]
    · simp [valueAt?, lookup, hkey, ih h.2]

theorem filterMap_entries (t : Table κ ν) (k : κ) : t.entries.filterMap (valueAt? k) = (t.get? k).toList :=
  filterMap_valueAt?_eq_lookup t.nodup k

theorem get?_foldl_insert_entries (es : List (κ × ν)) (t : Table κ ν) (k : κ) :
    (es.foldl (fun t e => t.insert e.1 e.2) t).get? k = (es.filterMap (valueAt? k)).getLast?.or (t.get? k) := by
  induction es generalizing t with
  | nil => rfl
  | cons e es ih =>
    rw [List.foldl_cons, ih, get?_insert, List.filterMap_cons]
    by_cases hkey : e.1 = k
    · cases hlast : (es.filterMap (valueAt? k)).getLast? <;> simp [valueAt?, hkey, List.getLast?_cons, hlast]
    · simp [valueAt?, hkey, Ne.symm hkey]

theorem get?_override (t u : Table κ ν) (k : κ) : (t.override u).get? k = (u.get? k).or (t.get? k) := by
  rw [override, get?_foldl_insert_entries, filterMap_entries, getLast?_toList]

theorem values_eq_map_keys (t : Table κ ν) (standard : ν) :
    t.values = t.keys.map fun k => (t.get? k).getD standard := by
  rw [values, keys, List.map_map]
  apply List.map_congr_left
  intro e he
  have hget : t.get? e.1 = some e.2 := (t.get?_eq_some_iff _ _).mpr he
  rw [Function.comp_apply, hget, Option.getD_some]

end Table

namespace Setting

/-! ### Lines and statements -/

namespace Outline

theorem ofStatements_concat (ss : List Statement) (s : Statement) :
    ofStatements (ss ++ [s]) = (ofStatements ss).take s := by
  rw [ofStatements, List.foldl_append, List.foldl_cons, List.foldl_nil, ofStatements]

theorem item_mem_of_mem_assignments {ss : List Statement} {a : Assignment} (h : a ∈ (ofStatements ss).assignments) :
    .item a.key a.value ∈ ss := by
  induction ss using List.reverseRecOn with
  | nil => simp [ofStatements] at h
  | append_singleton ss s ih =>
    rw [ofStatements_concat, take.eq_def] at h
    rw [List.mem_append]
    cases s with
    | header name =>
      refine Or.inl (ih ?_)
      simp only at h
      split at h <;> exact h
    | item key value =>
      rcases List.mem_append.mp h with h | h
      · exact Or.inl (ih h)
      · rw [List.mem_singleton.mp h]
        exact Or.inr (by simp)
    | unreadable => exact Or.inl (ih h)

/-- The keys of a text are in lower case. -/
theorem key_eq_lower {text : String} {a : Assignment} (h : a ∈ (ofText text).assignments) :
    ∃ s, a.key = Text.lower s := by
  obtain ⟨line, -, hline⟩ := List.mem_filterMap.mp (item_mem_of_mem_assignments h)
  rw [Statement.ofLine?] at hline
  split at hline
  · exact (Statement.ofContent_eq_item (Option.some.inj hline)).1
  · cases hline
  · cases hline

/-- Every section with an item has a header, the preamble apart. -/
structure Grounded (o : Outline) : Prop where
  preamble : preamble ∈ o.sections
  place : ∀ name, o.place = .section name → name ∈ o.sections
  assignments : ∀ a ∈ o.assignments, ∀ name, a.place = .section name → name ∈ o.sections

theorem Grounded.take {o : Outline} (h : o.Grounded) (s : Statement) : (o.take s).Grounded := by
  cases s with
  | header name =>
    rw [Outline.take]
    split
    · refine ⟨h.preamble, ?_, h.assignments⟩
      rintro _ ⟨⟩
    · have hmem : ∀ other ∈ o.sections, other ∈ if name ∈ o.sections then o.sections else o.sections ++ [name] := by
        intro other hother
        split
        · exact hother
        · exact List.mem_append_left _ hother
      refine ⟨hmem _ h.preamble, ?_, fun a ha other hother => hmem other (h.assignments a ha other hother)⟩
      rintro _ ⟨⟩
      split
      · assumption
      · simp
  | item key value =>
    refine ⟨h.preamble, h.place, ?_⟩
    intro a ha name hname
    rcases List.mem_append.mp ha with ha | ha
    · exact h.assignments a ha name hname
    · rw [List.mem_singleton.mp ha] at hname
      exact h.place name hname
  | unreadable => exact h

theorem grounded_ofStatements (ss : List Statement) : (ofStatements ss).Grounded := by
  induction ss using List.reverseRecOn with
  | nil => exact ⟨by simp [ofStatements], by rintro _ ⟨⟩; simp [ofStatements], by simp [ofStatements]⟩
  | append_singleton ss s ih =>
    rw [ofStatements_concat]
    exact ih.take s

/-! ### The order of delivery -/

/-- The lines with items, section by section in the order of the first headers. The items of the default section are
in front of those of every section. -/
def delivered (o : Outline) : List Assignment :=
  o.sections.flatMap fun name => o.itemsIn .defaults ++ o.itemsIn (.section name)

theorem Grounded.mem_delivered_iff {o : Outline} (h : o.Grounded) {a : Assignment} :
    a ∈ o.delivered ↔ a ∈ o.assignments := by
  rw [delivered, List.mem_flatMap]
  simp only [itemsIn, List.mem_append, List.mem_filter, decide_eq_true_eq]
  constructor
  · rintro ⟨name, -, ha | ha⟩
    · exact ha.1
    · exact ha.1
  · intro ha
    cases hplace : a.place with
    | defaults => exact ⟨_, h.preamble, Or.inl ⟨ha, rfl⟩⟩
    | «section» name => exact ⟨name, h.assignments a ha name hplace, Or.inr ⟨ha, rfl⟩⟩

theorem mem_of_value?_eq_some {o : Outline} {place : Place} {key value : String} (h : o.value? place key = some value) :
    ∃ a ∈ o.assignments, a.key = key ∧ a.value = value := by
  obtain ⟨a, ha, hvalue⟩ := List.mem_filterMap.mp (List.mem_of_getLast? h)
  rw [Assignment.valueOf?] at hvalue
  split at hvalue
  · exact ⟨a, List.mem_of_mem_filter ha, by assumption, Option.some.inj hvalue⟩
  · cases hvalue

end Outline

namespace Document

variable {d : Document} {o : Outline}

theorem items_eq_flatMap_keys (d : Document) :
    d.items = d.sections.keys.flatMap fun name => d.sectionItems (d.itemsAt (.section name)) := by
  rw [items, Table.values_eq_map_keys d.sections .empty, List.flatMap_map]
  rfl

theorem mem_sectionItems_iff (d : Document) (place : Place) (key value : String) :
    (key, value) ∈ d.sectionItems (d.itemsAt place)
      ↔ (((d.itemsAt place).get? key).or (d.defaults.get? key)).map joinValue = some value := by
  rw [← Table.get?_override, Option.map_eq_some_iff, sectionItems, List.mem_map]
  constructor
  · rintro ⟨e, he, heq⟩
    obtain ⟨rfl, rfl⟩ := Prod.mk.inj heq
    exact ⟨e.2, (Table.get?_eq_some_iff _ _ _).mpr he, rfl⟩
  · rintro ⟨lines, hget, rfl⟩
    exact ⟨(key, lines), (Table.get?_eq_some_iff _ _ _).mp hget, rfl⟩

theorem filterMap_sectionItems (d : Document) (place : Place) (key : String) :
    (d.sectionItems (d.itemsAt place)).filterMap (valueAt? key)
      = ((((d.itemsAt place).get? key).or (d.defaults.get? key)).map joinValue).toList := by
  have hmap : (fun e : String × List String => valueAt? key (e.1, joinValue e.2))
      = fun e => (valueAt? key e).map joinValue := by
    funext e
    rw [valueAt?, valueAt?]
    split <;> rfl
  rw [← Table.get?_override, sectionItems, List.filterMap_map, Function.comp_def, hmap, ← List.map_filterMap,
    Table.filterMap_entries]
  cases (d.defaults.override (d.itemsAt place)).get? key <;> rfl

/-- A document delivers the last value of a key that its lines deliver. -/
theorem Shows.getLast?_items (h : d.Shows o) (key : String) :
    (d.items.filterMap (valueAt? key)).getLast? = (o.delivered.filterMap (Assignment.valueOf? key)).getLast? := by
  rw [items_eq_flatMap_keys, Outline.delivered, List.filterMap_flatMap, List.filterMap_flatMap,
    List.getLast?_flatMap, List.getLast?_flatMap, h.sections]
  congr 1
  funext name
  rw [filterMap_sectionItems, getLast?_toList, List.filterMap_append, List.getLast?_append, Option.map_or,
    h.values]
  exact congrArg _ (h.values .defaults key)

/-- A document delivers what some line says. -/
theorem Shows.exists_assignment (h : d.Shows o) {key value : String} (hitem : (key, value) ∈ d.items) :
    ∃ a ∈ o.assignments, a.key = key ∧ a.value = value := by
  rw [items_eq_flatMap_keys, List.mem_flatMap] at hitem
  obtain ⟨name, -, hitem⟩ := hitem
  rw [mem_sectionItems_iff, Option.map_or, h.values, Option.or_eq_some_iff] at hitem
  rcases hitem with hvalue | ⟨-, hvalue⟩
  · exact Outline.mem_of_value?_eq_some hvalue
  · exact Outline.mem_of_value?_eq_some ((h.values .defaults key).symm.trans hvalue)

end Document

/-! ### Headers that come once -/

namespace Outline

/-- The names in the headers, in the order of their lines. -/
def headers (ss : List Statement) : List String :=
  ss.filterMap fun
    | .header name => some name
    | _ => none

/-- No header comes twice, and none is that of the default section or of the preamble. -/
def HeadersOnce (ss : List Statement) : Prop := (defaultSection :: preamble :: headers ss).Nodup

instance (ss : List Statement) : Decidable (HeadersOnce ss) := inferInstanceAs (Decidable (List.Nodup _))

/-- The lines of a section stand together below its header, and those of the last one are still coming. -/
structure Consecutive (o : Outline) : Prop where
  place : ∃ front name, o.sections = front ++ [name] ∧ o.place = .section name ∧ name ∉ front
  assignments : ∀ a ∈ o.assignments, ∃ name ∈ o.sections, a.place = .section name
  delivered : o.sections.flatMap (fun name => o.itemsIn (.section name)) = o.assignments

variable {o : Outline}

theorem itemsIn_eq_nil {place : Place} (h : ∀ a ∈ o.assignments, a.place ≠ place) : o.itemsIn place = [] := by
  rw [itemsIn, List.filter_eq_nil_iff]
  intro a ha
  rw [decide_eq_true_eq]
  exact h a ha

theorem Consecutive.take_header (h : o.Consecutive) {name : String} (hdefault : name ≠ defaultSection)
    (hnew : name ∉ o.sections) : (o.take (.header name)).Consecutive := by
  rw [take, if_neg hdefault, if_neg hnew]
  constructor
  case place => exact ⟨o.sections, name, rfl, rfl, hnew⟩
  case assignments =>
    intro a ha
    obtain ⟨other, hother, hplace⟩ := h.assignments a ha
    exact ⟨other, List.mem_append_left _ hother, hplace⟩
  case delivered =>
    have hnone : o.itemsIn (.section name) = [] := by
      apply itemsIn_eq_nil
      intro a ha hsame
      obtain ⟨other, hother, hplace⟩ := h.assignments a ha
      rw [hplace, Place.section.injEq] at hsame
      exact hnew (hsame ▸ hother)
    refine (List.flatMap_append ..).trans ?_
    rw [List.flatMap_singleton]
    change _ ++ o.itemsIn (.section name) = o.assignments
    rw [hnone, List.append_nil]
    exact h.delivered

theorem Consecutive.take_item (h : o.Consecutive) (key value : String) : (o.take (.item key value)).Consecutive := by
  obtain ⟨front, name, hsections, hplace, hfront⟩ := h.place
  constructor
  case place => exact ⟨front, name, hsections, hplace, hfront⟩
  case assignments =>
    intro a ha
    rcases List.mem_append.mp ha with ha | ha
    · exact h.assignments a ha
    · rw [List.mem_singleton.mp ha]
      exact ⟨name, by simp [take, hsections], hplace⟩
  case delivered =>
    have hother : ∀ other ∈ front,
        (o.take (.item key value)).itemsIn (.section other) = o.itemsIn (.section other) := by
      intro other hmem
      have hne : name ≠ other := fun hsame => hfront (hsame ▸ hmem)
      simp [itemsIn, take, hplace, hne]
    have hlast : (o.take (.item key value)).itemsIn (.section name)
        = o.itemsIn (.section name) ++ [⟨.section name, key, value⟩] := by
      simp [itemsIn, take, hplace]
    have hbefore := h.delivered
    rw [hsections, List.flatMap_append, List.flatMap_singleton] at hbefore
    change o.sections.flatMap _ = o.assignments ++ [⟨o.place, key, value⟩]
    rw [hsections, List.flatMap_append, List.flatMap_singleton, hlast, List.flatMap_congr hother, ← List.append_assoc,
      hbefore, hplace]

theorem consecutive_ofStatements {ss : List Statement} (h : HeadersOnce ss) :
    (ofStatements ss).sections = preamble :: headers ss ∧ (ofStatements ss).Consecutive := by
  induction ss using List.reverseRecOn with
  | nil => exact ⟨rfl, ⟨[], preamble, rfl, rfl, by simp⟩, by simp [ofStatements], rfl⟩
  | append_singleton ss s ih =>
    rw [ofStatements_concat]
    cases s with
    | header name =>
      have hconcat : headers (ss ++ [.header name]) = headers ss ++ [name] := by simp [headers]
      rw [HeadersOnce, hconcat, ← List.cons_append, ← List.cons_append, List.nodup_append] at h
      obtain ⟨hbefore, -, hnew⟩ := h
      obtain ⟨hsections, hconsecutive⟩ := ih hbefore
      have hdefault : name ≠ defaultSection := (hnew defaultSection (by simp) name (by simp)).symm
      have hfresh : name ∉ (ofStatements ss).sections := by
        rw [hsections]
        intro hmem
        exact hnew name (List.mem_cons_of_mem _ hmem) name (by simp) rfl
      refine ⟨?_, hconsecutive.take_header hdefault hfresh⟩
      rw [take, if_neg hdefault, if_neg hfresh, hsections, hconcat, List.cons_append]
    | item key value =>
      have hconcat : headers (ss ++ [.item key value]) = headers ss := by simp [headers]
      rw [HeadersOnce, hconcat] at h
      rw [hconcat]
      exact ⟨(ih h).1, (ih h).2.take_item key value⟩
    | unreadable =>
      have hconcat : headers (ss ++ [.unreadable]) = headers ss := by simp [headers]
      rw [HeadersOnce, hconcat] at h
      rw [hconcat]
      exact ih h

theorem delivered_eq_assignments {ss : List Statement} (h : HeadersOnce ss) :
    (ofStatements ss).delivered = (ofStatements ss).assignments := by
  have hconsecutive := (consecutive_ofStatements h).2
  have hdefaults : (ofStatements ss).itemsIn .defaults = [] := by
    apply itemsIn_eq_nil
    intro a ha hsame
    obtain ⟨name, -, hplace⟩ := hconsecutive.assignments a ha
    rw [hplace] at hsame
    cases hsame
  rw [delivered, hdefaults]
  exact hconsecutive.delivered

end Outline

end Setting

/-! ### The deciding line -/

namespace Configuration

open Setting

/-- A configuration has a rule at a level. -/
structure HasLevel (c : Configuration) (r : Rule) (level : RuleLevel) : Prop where
  suppressed : r.id ∈ c.suppressed ↔ level = .suppressed
  severity : ∀ s, c.severities.get? r.id = some s ↔ level = .severity s

/-- A configuration has a rule at the level in the last of the given lines with its key. -/
def FollowsLastLine (c : Configuration) (r : Rule) (lines : List Assignment) : Prop :=
  ∃ a level, IsLast (fun b => b.key = r.settingKey) lines a ∧ RuleLevel.ofValue? a.value = some level
    ∧ c.HasLevel r level

theorem FollowsLastLine.hasLevel {c : Configuration} {r : Rule} {lines : List Assignment} {a : Assignment}
    {level : RuleLevel} (h : c.FollowsLastLine r (lines ++ [a])) (hkey : a.key = r.settingKey)
    (hvalue : RuleLevel.ofValue? a.value = some level) : c.HasLevel r level := by
  obtain ⟨b, level', hlast, hvalue', hlevel⟩ := h
  obtain rfl : b = a := hlast.eq_of_concat hkey
  obtain rfl : level' = level := Option.some.inj (hvalue'.symm.trans hvalue)
  exact hlevel

/-- A text of plain lines where the values about levels stand for levels. -/
structure PlainSettings (text : String) : Prop where
  lines : ∀ line ∈ Text.lines text.toList, isPlainLine line = true
  values : ∀ a ∈ (Outline.ofText text).assignments, (LevelTarget.ofKey? a.key).isSome = true →
    (RuleLevel.ofValue? a.value).isSome = true

theorem validSettings_of_shows {text : String} (h : PlainSettings text) {d : Document} (hd : d.Shows (.ofText text)) :
    ValidSettings d.items := by
  rintro ⟨key, value⟩ hitem target habout
  obtain ⟨a, ha, rfl, rfl⟩ := hd.exists_assignment hitem
  exact h.values a ha (Option.isSome_iff_exists.mpr ⟨target, habout⟩)

theorem isLast_about_of_isLast_line {text : String} {d : Document} (hd : d.Shows (.ofText text)) {r : Rule}
    (hr : r ∈ Rule.all) {a : Assignment}
    (ha : IsLast (fun b => b.key = r.settingKey) (Outline.ofText text).delivered a) :
    ∃ item, IsLast (IsAbout (.rule r.id)) d.items item ∧ item.2 = a.value := by
  have hline : ((Outline.ofText text).delivered.filterMap (Assignment.valueOf? r.settingKey)).getLast?
      = some a.value := by
    rw [getLast?_filterMap_eq_some_iff]
    refine ⟨a, ha.congr ?_, if_pos ha.holds⟩
    intro b _
    rw [Assignment.valueOf?]
    split <;> simp [*]
  rw [← hd.getLast?_items, getLast?_filterMap_eq_some_iff] at hline
  obtain ⟨item, hitem, hvalue⟩ := hline
  refine ⟨item, hitem.congr ?_, ?_⟩
  · rintro ⟨key, value⟩ hother
    obtain ⟨b, hb, rfl, -⟩ := hd.exists_assignment hother
    obtain ⟨s, hs⟩ := Outline.key_eq_lower hb
    rw [isSome_valueAt?_iff, IsAbout, Rule.ofKey?_lower_eq_rule_iff hr hs]
  · rw [valueAt?, if_pos ((isSome_valueAt?_iff _ _).mp hitem.holds)] at hvalue
    exact Option.some.inj hvalue

/-- The last line about a rule in the order of delivery decides. -/
theorem exists_parse_followsLastLine {text : String} (h : PlainSettings text) {r : Rule} (hr : r ∈ Rule.all)
    (hset : ∃ a ∈ (Outline.ofText text).assignments, a.key = r.settingKey) (source : Option String) :
    ∃ c, parse Rule.all source text = .ok c ∧ c.FollowsLastLine r (Outline.ofText text).delivered := by
  obtain ⟨d, hread, hd⟩ := Document.exists_read_of_plain h.lines
  obtain ⟨result, hresult⟩ := (exists_levels_iff d.items).mpr (validSettings_of_shows h hd)
  have hmem : ∃ a ∈ (Outline.ofText text).delivered, a.key = r.settingKey := by
    simpa only [(Outline.grounded_ofStatements _).mem_delivered_iff, Outline.ofText] using hset
  obtain ⟨a, ha⟩ := exists_isLast hmem
  obtain ⟨item, hitem, hvalue⟩ := isLast_about_of_isLast_line hd hr ha
  have hat : result.at? (.rule r.id) = RuleLevel.ofValue? a.value := hvalue ▸ at?_of_isLast hresult hitem
  have hsome : (RuleLevel.ofValue? a.value).isSome = true := by
    rw [← hvalue]
    exact validSettings_of_shows h hd item hitem.mem _ hitem.holds
  obtain ⟨level, hlevel⟩ := Option.isSome_iff_exists.mp hsome
  have hof : result.levelOf r = level := by
    rw [RuleLevels.levelOf_eq, hat, hlevel, Option.some_or, Option.getD_some]
  have hids : (Rule.all.map Rule.id).Nodup := by decide
  refine ⟨ofLevels Rule.all result, by simp [parse, levelsOfText, hread, hresult], a, level, ha, hlevel, ?_, ?_⟩
  · rw [id_mem_suppressed_ofLevels_iff hids hr, hof]
  · intro s
    rw [get?_id_severities_ofLevels_iff hids hr, hof]

/-- The last line about a rule in the order of delivery decides. If no header comes twice and there is no default
section, it is the last such line of the text. -/
theorem parse_follows_last_delivered_line {text : String} (h : PlainSettings text) {r : Rule} (hr : r ∈ Rule.all)
    (hset : ∃ a ∈ (Outline.ofText text).assignments, a.key = r.settingKey) (source : Option String) :
    ∃ c, parse Rule.all source text = .ok c ∧ c.FollowsLastLine r (Outline.ofText text).delivered
      ∧ (Outline.HeadersOnce (Outline.statements text) → c.FollowsLastLine r (Outline.ofText text).assignments) := by
  obtain ⟨c, hc, hfollows⟩ := exists_parse_followsLastLine h hr hset source
  refine ⟨c, hc, hfollows, ?_⟩
  intro honce
  have hsame : (Outline.ofText text).delivered = (Outline.ofText text).assignments :=
    Outline.delivered_eq_assignments honce
  exact hsame ▸ hfollows

theorem statements_of_lines {text : String} {entries : List (Option Statement × Bool)}
    (h : (Text.lines text.toList).map (fun line => (Statement.ofLine? line, isPlainLine line)) = entries) :
    Outline.statements text = entries.filterMap Prod.fst := by
  rw [← h, List.filterMap_map]
  rfl

theorem plainSettings_of_lines {text : String} {entries : List (Option Statement × Bool)}
    (h : (Text.lines text.toList).map (fun line => (Statement.ofLine? line, isPlainLine line)) = entries)
    (hentries : ∀ e ∈ entries, e.2 = true)
    (hvalues : ∀ a ∈ (Outline.ofText text).assignments, (RuleLevel.ofValue? a.value).isSome = true) :
    PlainSettings text := by
  refine ⟨?_, fun a ha _ => hvalues a ha⟩
  intro line hline
  exact hentries (Statement.ofLine? line, isPlainLine line) (h ▸ List.mem_map_of_mem hline)

/-- Two sections about one rule. -/
def twoSections : String :=
  "[*.cs]\ndotnet_diagnostic.gmdtr07.severity = error\n\n# tests\n[*.vb]\nDotnet_Diagnostic.GMDTR07.severity: None\n"

theorem lines_twoSections :
    (Text.lines twoSections.toList).map (fun line => (Statement.ofLine? line, isPlainLine line))
      = [(some (.header "*.cs"), true), (some (.item Rule.genericDispatch.settingKey "error"), true), (none, true),
        (none, true), (some (.header "*.vb"), true), (some (.item Rule.genericDispatch.settingKey "None"), true)] := by
  decide +kernel

theorem parse_follows_last_delivered_line_two_sections :
    PlainSettings twoSections ∧ Rule.genericDispatch ∈ Rule.all
      ∧ (∃ a ∈ (Outline.ofText twoSections).assignments, a.key = Rule.genericDispatch.settingKey)
      ∧ Outline.HeadersOnce (Outline.statements twoSections)
      ∧ ∃ c, parse Rule.all none twoSections = .ok c ∧ c.HasLevel Rule.genericDispatch .suppressed := by
  have hstatements := statements_of_lines lines_twoSections
  have hassignments : (Outline.ofText twoSections).assignments
      = [⟨.section "*.cs", Rule.genericDispatch.settingKey, "error"⟩]
        ++ [⟨.section "*.vb", Rule.genericDispatch.settingKey, "None"⟩] := by
    rw [Outline.ofText, hstatements]
    rfl
  have herror : (RuleLevel.ofValue? "error").isSome = true := by decide +kernel
  have hnone : RuleLevel.ofValue? "None" = some .suppressed := by decide +kernel
  have hplain : PlainSettings twoSections := by
    apply plainSettings_of_lines lines_twoSections (by simp)
    simp [hassignments, herror, hnone]
  have hset : ∃ a ∈ (Outline.ofText twoSections).assignments, a.key = Rule.genericDispatch.settingKey := by
    simp [hassignments]
  have honce : Outline.HeadersOnce (Outline.statements twoSections) := by
    rw [hstatements]
    decide
  obtain ⟨c, hc, -, hlast⟩ := parse_follows_last_delivered_line hplain (by decide) hset none
  have hfollows := hlast honce
  rw [hassignments] at hfollows
  exact ⟨hplain, by decide, hset, honce, c, hc, hfollows.hasLevel rfl hnone⟩

/-- The last part of a section comes after another section. -/
def dividedSection : String :=
  "[*.cs]\n[*.vb]\ndotnet_diagnostic.GMDTR07.severity = error\n[*.cs]\ndotnet_diagnostic.GMDTR07.severity = none\n"

theorem lines_dividedSection :
    (Text.lines dividedSection.toList).map (fun line => (Statement.ofLine? line, isPlainLine line))
      = [(some (.header "*.cs"), true), (some (.header "*.vb"), true),
        (some (.item Rule.genericDispatch.settingKey "error"), true), (some (.header "*.cs"), true),
        (some (.item Rule.genericDispatch.settingKey "none"), true)] := by
  decide +kernel

/-- The last line of the text is delivered with the first part of its section, so the line above decides. -/
theorem divided_section_hides_last_line :
    PlainSettings dividedSection
      ∧ (∃ a ∈ (Outline.ofText dividedSection).assignments, a.key = Rule.genericDispatch.settingKey)
      ∧ ¬ ∃ c, parse Rule.all none dividedSection = .ok c
        ∧ c.FollowsLastLine Rule.genericDispatch (Outline.ofText dividedSection).assignments := by
  have hstatements := statements_of_lines lines_dividedSection
  have hassignments : (Outline.ofText dividedSection).assignments
      = [⟨.section "*.vb", Rule.genericDispatch.settingKey, "error"⟩]
        ++ [⟨.section "*.cs", Rule.genericDispatch.settingKey, "none"⟩] := by
    rw [Outline.ofText, hstatements]
    rfl
  have hdelivered : (Outline.ofText dividedSection).delivered
      = [⟨.section "*.cs", Rule.genericDispatch.settingKey, "none"⟩]
        ++ [⟨.section "*.vb", Rule.genericDispatch.settingKey, "error"⟩] := by
    rw [Outline.ofText, hstatements]
    rfl
  have herror : RuleLevel.ofValue? "error" = some (.severity .error) := by decide +kernel
  have hnone : RuleLevel.ofValue? "none" = some .suppressed := by decide +kernel
  have hplain : PlainSettings dividedSection := by
    apply plainSettings_of_lines lines_dividedSection (by simp)
    simp [hassignments, herror, hnone]
  have hset : ∃ a ∈ (Outline.ofText dividedSection).assignments, a.key = Rule.genericDispatch.settingKey := by
    simp [hassignments]
  refine ⟨hplain, hset, ?_⟩
  rintro ⟨c, hc, hclaimed⟩
  obtain ⟨c', hc', hfollows⟩ := exists_parse_followsLastLine hplain (by decide) hset none
  obtain rfl : c = c' := Except.ok.inj (hc.symm.trans hc')
  rw [hassignments] at hclaimed
  rw [hdelivered] at hfollows
  have hsuppressed := (hclaimed.hasLevel rfl hnone).suppressed.mpr rfl
  exact absurd ((hfollows.hasLevel rfl herror).suppressed.mp hsuppressed) (by decide)

end Configuration

end Mediation
