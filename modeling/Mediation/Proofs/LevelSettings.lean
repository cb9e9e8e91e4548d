import Mathlib.Data.List.Induction
import Mediation.Configuration.Basic
import Mediation.Proofs.LastOfList

/-!
# Levels from settings

A setting is about a rule or a category if its key has the form for it. Settings are taken one after the other, and
each overwrites what was there for its rule or category. So all of them are accepted if each one is, and then the last
setting about a rule or a category gives its level.
-/

namespace Mediation

/-! ### Keys about rules and categories -/

namespace LevelTarget

theorem toList_middle (key start : String) :
    (middle key start).toList
      = (key.toList.take (key.toList.length - tail.toList.length)).drop start.toList.length := by
  simp [middle, Text.dropFirst, Text.dropLast, String.length_toList]

theorem middle_append (start name : String) : middle (start ++ name ++ tail) start = name := by
  have hkey : (start ++ name ++ tail).toList = (start.toList ++ name.toList) ++ tail.toList := by simp
  have hlength : (start ++ name ++ tail).toList.length - tail.toList.length
      = (start.toList ++ name.toList).length := by
    rw [hkey, List.length_append]
    omega
  rw [← String.toList_inj, toList_middle, hlength, hkey, List.take_left, List.drop_left]

/-- A key that is too short for both has nothing between the beginning and the end. -/
theorem middle_eq_empty {key start : String} (h : key.toList.length < start.toList.length + tail.toList.length) :
    middle key start = "" := by
  rw [← String.toList_inj, toList_middle, String.toList_empty, List.drop_eq_nil_iff, List.length_take]
  omega

theorem eq_append_middle {key start : String} (hstart : Text.startsWith key start = true)
    (htail : Text.endsWith key tail = true) (hlength : start.toList.length + tail.toList.length ≤ key.toList.length) :
    key = start ++ middle key start ++ tail := by
  obtain ⟨rest, hrest⟩ := (Text.startsWith_iff _ _).mp hstart
  have hsuffix : tail.toList <:+ rest := by
    apply List.suffix_of_suffix_length_le ((Text.endsWith_iff _ _).mp htail) ⟨start.toList, hrest⟩
    have hsum := congrArg List.length hrest
    rw [List.length_append] at hsum
    omega
  obtain ⟨name, rfl⟩ := hsuffix
  have hkey : key = start ++ String.ofList name ++ tail := by
    rw [← String.toList_inj, ← hrest]
    simp
  rw [hkey, middle_append]

/-- The beginning of keys about categories does not run into the end, whose first character is a point. -/
theorem length_le_of_category {key : String} (hstart : Text.startsWith key categoryStart = true)
    (htail : Text.endsWith key tail = true) :
    categoryStart.toList.length + tail.toList.length ≤ key.toList.length := by
  obtain ⟨rest, hrest⟩ := (Text.startsWith_iff _ _).mp hstart
  obtain ⟨front, hfront⟩ := (Text.endsWith_iff _ _).mp htail
  have hpoint : key.toList[front.length]? = some '.' := by
    rw [← hfront, List.getElem?_append_right (Nat.le_refl _), Nat.sub_self]
    rfl
  have hrestLength := congrArg List.length hrest
  have hfrontLength := congrArg List.length hfront
  rw [List.length_append] at hrestLength hfrontLength
  -- The last nine characters of the beginning are no points.
  have hnone : ∀ i : Fin 36, 27 ≤ i.val → categoryStart.toList[i.val]? ≠ some '.' := by decide
  have hstartLength : categoryStart.toList.length = 36 := by decide
  have htailLength : tail.toList.length = 9 := by decide
  by_contra hshort
  have hhigh : front.length < 36 := by omega
  rw [← hrest, List.getElem?_append_left (by omega)] at hpoint
  exact hnone ⟨front.length, hhigh⟩ (by simp only; omega) hpoint

theorem not_startsWith_ruleStart {key : String} (h : Text.startsWith key categoryStart = true) :
    Text.startsWith key ruleStart = false := by
  obtain ⟨rest, hrest⟩ := (Text.startsWith_iff _ _).mp h
  rw [Bool.eq_false_iff]
  intro hrule
  obtain ⟨rest', hrest'⟩ := (Text.startsWith_iff _ _).mp hrule
  have hrule' : (key.toList)[7]? = some 'd' := by
    rw [← hrest']
    rfl
  have hcategory : (key.toList)[7]? = some 'a' := by
    rw [← hrest]
    rfl
  rw [hrule'] at hcategory
  exact absurd hcategory (by decide)

/-- A key is about a rule if the identifier stands between the beginning and the end, in any case. -/
theorem ofKey?_eq_rule_iff {key id : String} (hid : id ≠ "") :
    ofKey? key = some (.rule id) ↔ ∃ name, key = ruleStart ++ name ++ tail ∧ Text.upper name = id := by
  constructor
  · intro h
    rw [ofKey?] at h
    split_ifs at h with htail hstart
    · have hupper : Text.upper (middle key ruleStart) = id := by simpa using h
      have hlength : ruleStart.toList.length + tail.toList.length ≤ key.toList.length := by
        by_contra hshort
        rw [middle_eq_empty (by omega)] at hupper
        exact hid (hupper ▸ rfl)
      exact ⟨middle key ruleStart, eq_append_middle hstart htail hlength, hupper⟩
    · simp at h
  · rintro ⟨name, rfl, rfl⟩
    have hstart : Text.startsWith (ruleStart ++ name ++ tail) ruleStart = true := by
      rw [String.append_assoc]
      exact Text.startsWith_append _ _
    rw [ofKey?, if_pos (Text.endsWith_append _ _), if_pos hstart, middle_append]

theorem ofKey?_eq_category_iff {key category : String} :
    ofKey? key = some (.category category)
      ↔ ∃ name, key = categoryStart ++ name ++ tail ∧ Text.lower name = category := by
  constructor
  · intro h
    rw [ofKey?] at h
    split_ifs at h with htail hrule hstart
    · simp at h
    · have hlower : Text.lower (middle key categoryStart) = category := by simpa using h
      exact ⟨middle key categoryStart, eq_append_middle hstart htail (length_le_of_category hstart htail), hlower⟩
  · rintro ⟨name, rfl, rfl⟩
    have hstart : Text.startsWith (categoryStart ++ name ++ tail) categoryStart = true := by
      rw [String.append_assoc]
      exact Text.startsWith_append _ _
    rw [ofKey?, if_pos (Text.endsWith_append _ _), not_startsWith_ruleStart hstart, if_neg Bool.false_ne_true,
      if_pos hstart, middle_append]

end LevelTarget

/-! ### The levels that settings give -/

namespace RuleLevels

/-- The level of a rule or of a category. -/
def at? (levels : RuleLevels) : LevelTarget → Option RuleLevel
  | .rule id => levels.rules.get? id
  | .category name => levels.categories.get? name

theorem at?_set (levels : RuleLevels) (target target' : LevelTarget) (level : RuleLevel) :
    (levels.set target level).at? target' = if target' = target then some level else levels.at? target' := by
  cases target <;> cases target' <;> simp [set, at?, Table.get?_insert]

theorem levelOf_eq (levels : RuleLevels) (r : Rule) :
    levels.levelOf r
      = ((levels.at? (.rule r.id)).or (levels.at? (.category (Text.lower r.category)))).getD .standard := by
  rw [levelOf, at?, at?]
  cases levels.rules.get? r.id <;> rfl

end RuleLevels

namespace Configuration

/-- A setting about a rule or a category. -/
def IsAbout (target : LevelTarget) (item : String × String) : Prop := LevelTarget.ofKey? item.1 = some target

/-- Settings about levels have values that stand for levels. -/
def ValidSettings (items : List (String × String)) : Prop :=
  ∀ item ∈ items, ∀ target, IsAbout target item → (RuleLevel.ofValue? item.2).isSome = true

/-- The level that a setting gives to a rule or to a category. -/
def levelFor? (target : LevelTarget) (item : String × String) : Option RuleLevel :=
  if LevelTarget.ofKey? item.1 = some target then RuleLevel.ofValue? item.2 else none

theorem levelFor?_of_isAbout {target : LevelTarget} {item : String × String} (h : IsAbout target item) :
    levelFor? target item = RuleLevel.ofValue? item.2 := if_pos h

theorem levelFor?_of_not_isAbout {target : LevelTarget} {item : String × String} (h : ¬ IsAbout target item) :
    levelFor? target item = none := if_neg h

theorem addItem_eq_ok_iff (levels levels' : RuleLevels) (item : String × String) :
    addItem levels item = .ok levels'
      ↔ LevelTarget.ofKey? item.1 = none ∧ levels' = levels
        ∨ ∃ target level, IsAbout target item ∧ RuleLevel.ofValue? item.2 = some level
          ∧ levels' = levels.set target level := by
  rw [addItem]
  simp only [IsAbout]
  cases LevelTarget.ofKey? item.1 with
  | none => simp [eq_comm]
  | some target =>
    cases RuleLevel.ofValue? item.2 with
    | none => simp
    | some level => simp [eq_comm]

theorem at?_addItem {levels levels' : RuleLevels} {item : String × String} (h : addItem levels item = .ok levels')
    (target : LevelTarget) : levels'.at? target = (levelFor? target item).or (levels.at? target) := by
  rcases (addItem_eq_ok_iff _ _ _).mp h with ⟨hkey, rfl⟩ | ⟨target', level, habout, hvalue, rfl⟩
  · simp [levelFor?, hkey]
  · rw [RuleLevels.at?_set]
    by_cases htarget : target = target'
    · subst htarget
      rw [if_pos rfl, levelFor?_of_isAbout habout, hvalue, Option.some_or]
    · have hnot : ¬ IsAbout target item := fun h' => htarget (Option.some.inj (h'.symm.trans habout))
      rw [if_neg htarget, levelFor?_of_not_isAbout hnot, Option.none_or]

theorem levels_concat (items : List (String × String)) (item : String × String) :
    levels (items ++ [item]) = levels items >>= fun before => addItem before item := by
  rw [levels, List.foldlM_append, levels]
  simp

theorem levels_concat_eq_ok_iff (items : List (String × String)) (item : String × String) (after : RuleLevels) :
    levels (items ++ [item]) = .ok after ↔ ∃ before, levels items = .ok before ∧ addItem before item = .ok after := by
  rw [levels_concat]
  cases levels items with
  | error => simp [bind, Except.bind]
  | ok before => simp [bind, Except.bind]

/-- The last setting about a rule or a category gives its level. -/
theorem at?_levels {items : List (String × String)} {result : RuleLevels} (h : levels items = .ok result)
    (target : LevelTarget) : result.at? target = (items.filterMap (levelFor? target)).getLast? := by
  induction items using List.reverseRecOn generalizing result with
  | nil =>
    obtain rfl : {} = result := by simpa [levels, pure, Except.pure] using h
    cases target <;> rfl
  | append_singleton items item ih =>
    obtain ⟨before, hbefore, hitem⟩ := (levels_concat_eq_ok_iff _ _ _).mp h
    rw [at?_addItem hitem, ih hbefore, List.filterMap_append, List.getLast?_append]
    cases hlevel : levelFor? target item <;> simp [hlevel]

theorem exists_addItem_iff (levels : RuleLevels) (item : String × String) :
    (∃ after, addItem levels item = .ok after)
      ↔ ∀ target, IsAbout target item → (RuleLevel.ofValue? item.2).isSome = true := by
  rw [addItem]
  simp only [IsAbout]
  cases LevelTarget.ofKey? item.1 with
  | none => simp
  | some target => cases RuleLevel.ofValue? item.2 <;> simp

/-- Settings are accepted exactly if they are valid. -/
theorem exists_levels_iff (items : List (String × String)) :
    (∃ result, levels items = .ok result) ↔ ValidSettings items := by
  induction items using List.reverseRecOn with
  | nil => exact iff_of_true ⟨{}, rfl⟩ (by simp [ValidSettings])
  | append_singleton items item ih =>
    have hsplit : ValidSettings (items ++ [item])
        ↔ ValidSettings items ∧ ∀ target, IsAbout target item → (RuleLevel.ofValue? item.2).isSome = true := by
      simp [ValidSettings, or_imp, forall_and]
    simp only [hsplit, ← ih, levels_concat_eq_ok_iff]
    constructor
    · rintro ⟨after, before, hbefore, hitem⟩
      exact ⟨⟨before, hbefore⟩, (exists_addItem_iff before item).mp ⟨after, hitem⟩⟩
    · rintro ⟨⟨before, hbefore⟩, hitem⟩
      obtain ⟨after, hafter⟩ := (exists_addItem_iff before item).mpr hitem
      exact ⟨after, before, hbefore, hafter⟩

variable {items : List (String × String)} {result : RuleLevels} {target : LevelTarget}

theorem at?_of_isLast (h : levels items = .ok result) {item : String × String}
    (hlast : IsLast (IsAbout target) items item) : result.at? target = RuleLevel.ofValue? item.2 := by
  have hvalid := (exists_levels_iff items).mp ⟨result, h⟩
  obtain ⟨level, hlevel⟩ := Option.isSome_iff_exists.mp (hvalid item hlast.mem target hlast.holds)
  have hiff : ∀ other ∈ items, IsAbout target other ↔ (levelFor? target other).isSome = true := by
    intro other hother
    by_cases habout : IsAbout target other
    · rw [levelFor?_of_isAbout habout]
      exact iff_of_true habout (hvalid other hother target habout)
    · rw [levelFor?_of_not_isAbout habout]
      exact iff_of_false habout (by simp)
  rw [at?_levels h, hlevel, getLast?_filterMap_eq_some_iff]
  exact ⟨item, hlast.congr hiff, (levelFor?_of_isAbout hlast.holds).trans hlevel⟩

theorem at?_eq_none (h : levels items = .ok result) (hnone : ∀ item ∈ items, ¬ IsAbout target item) :
    result.at? target = none := by
  rw [at?_levels h, List.getLast?_eq_none_iff, List.filterMap_eq_nil_iff]
  intro item hitem
  exact levelFor?_of_not_isAbout (hnone item hitem)

end Configuration

end Mediation
