import Mathlib.Data.List.Basic
import Mediation.Suppressions

/-!
# Suppressions as a set of entries

However suppressions came together, they are a set of entries, and a finding is suppressed exactly if one of the
entries hits it. Every operation adds entries and removes none, so neither their order nor their number matters.
The rest of the theory reaches suppressions only through this view.
-/

namespace Mediation

namespace Suppressions

/-- A single suppression of a rule: on one line, in the files of a pattern, or everywhere. -/
inductive Entry where
  | inline (path : String) (line : Int) (ruleId : String)
  | file (pattern ruleId : String)
  | everywhere (ruleId : String)
  deriving DecidableEq

namespace Entry

/-- The rule that an entry names. -/
def ruleId : Entry → String
  | .inline _ _ ruleId => ruleId
  | .file _ ruleId => ruleId
  | .everywhere ruleId => ruleId

/-- Whether an entry holds at the place of a finding. -/
def HoldsAt (d : Diagnostic) : Entry → Prop
  | .inline path line _ => path = d.span.file ∧ line = d.span.startLine
  | .file pattern _ => covers pattern d.span.file = true
  | .everywhere _ => True

/-- Whether an entry suppresses a finding. -/
def Hits (e : Entry) (d : Diagnostic) : Prop := (e.ruleId = d.ruleId ∨ e.ruleId = "*") ∧ e.HoldsAt d

/-- The entry that a suppression written in source stands for. -/
def ofMark (mark : SuppressionMark) : Entry :=
  if mark.file = "" then .everywhere mark.ruleId
  else if mark.line = 0 then .file mark.file mark.ruleId
  else .inline mark.file mark.line mark.ruleId

end Entry

/-- The rules that a table has at a key. -/
def rulesAt {κ : Type} [DecidableEq κ] (t : Table κ (List String)) (k : κ) : List String := (t.get? k).getD []

/-- The entries of suppressions. -/
def Has (s : Suppressions) : Entry → Prop
  | .inline file line ruleId => ruleId ∈ rulesAt s.inline (file, line)
  | .file pattern ruleId => ruleId ∈ rulesAt s.byFile pattern
  | .everywhere ruleId => ruleId ∈ s.everywhere

/-! ### What the operations add -/

theorem mem_foldl_insert (id : String) (ids found : List String) :
    id ∈ ids.foldl (fun ids id => ids.insert id) found ↔ id ∈ found ∨ id ∈ ids := by
  induction ids generalizing found with
  | nil => simp
  | cons first ids ih =>
    rw [List.foldl_cons, ih, List.mem_insert_iff, List.mem_cons]
    tauto

section Tables

variable {κ : Type} [DecidableEq κ]

theorem mem_rulesAt_addRules (t : Table κ (List String)) (key k : κ) (ids : List String) (id : String) :
    id ∈ rulesAt (addRules t key ids) k ↔ id ∈ rulesAt t k ∨ (k = key ∧ id ∈ ids) := by
  rw [rulesAt, addRules, Table.get?_alter]
  by_cases hk : k = key
  · rw [if_pos hk, Option.getD_some, mem_foldl_insert, hk]
    simp [rulesAt]
  · rw [if_neg hk]
    simp [rulesAt, hk]

theorem mem_rulesAt_foldl_addRules (es : List (κ × List String)) (t : Table κ (List String)) (k : κ)
    (id : String) :
    id ∈ rulesAt (es.foldl (fun t e => addRules t e.1 e.2) t) k
      ↔ id ∈ rulesAt t k ∨ ∃ ids, (k, ids) ∈ es ∧ id ∈ ids := by
  induction es generalizing t with
  | nil => simp
  | cons e es ih =>
    obtain ⟨key, ids⟩ := e
    rw [List.foldl_cons, ih, mem_rulesAt_addRules, or_assoc]
    apply or_congr_right
    constructor
    · rintro (⟨rfl, hid⟩ | ⟨ids', hmem, hid⟩)
      · exact ⟨ids, List.mem_cons_self, hid⟩
      · exact ⟨ids', List.mem_cons_of_mem _ hmem, hid⟩
    · rintro ⟨ids', hmem, hid⟩
      rcases List.mem_cons.mp hmem with heq | hmem
      · obtain ⟨rfl, rfl⟩ := Prod.mk.inj heq
        exact Or.inl ⟨rfl, hid⟩
      · exact Or.inr ⟨ids', hmem, hid⟩

theorem mem_rulesAt_iff (t : Table κ (List String)) (k : κ) (id : String) :
    id ∈ rulesAt t k ↔ ∃ ids, (k, ids) ∈ t.entries ∧ id ∈ ids := by
  simp only [← Table.get?_eq_some_iff, rulesAt]
  cases t.get? k <;> simp

end Tables

@[simp] theorem not_has_empty (e : Entry) : ¬ empty.Has e := by
  cases e <;> simp [Has, empty, rulesAt]

theorem has_addInline (s : Suppressions) (file : String) (line : Int) (ruleId : String) (e : Entry) :
    (s.addInline file line ruleId).Has e ↔ s.Has e ∨ e = .inline file line ruleId := by
  cases e with
  | inline => simp [Has, addInline, mem_rulesAt_addRules, and_assoc]
  | file => simp [Has, addInline]
  | everywhere => simp [Has, addInline]

theorem has_addFile (s : Suppressions) (ruleId pattern : String) (e : Entry) :
    (s.addFile ruleId pattern).Has e ↔ s.Has e ∨ e = .file pattern ruleId := by
  cases e with
  | inline => simp [Has, addFile]
  | file => simp [Has, addFile, mem_rulesAt_addRules]
  | everywhere => simp [Has, addFile]

theorem has_addGlobal (s : Suppressions) (ruleId : String) (e : Entry) :
    (s.addGlobal ruleId).Has e ↔ s.Has e ∨ e = .everywhere ruleId := by
  cases e with
  | inline => simp [Has, addGlobal]
  | file => simp [Has, addGlobal]
  | everywhere => simp [Has, addGlobal, or_comm]

theorem has_foldl_addGlobal (ids : List String) (s : Suppressions) (e : Entry) :
    (ids.foldl addGlobal s).Has e ↔ s.Has e ∨ ∃ id ∈ ids, e = .everywhere id := by
  induction ids generalizing s with
  | nil => simp
  | cons id ids ih =>
    rw [List.foldl_cons, ih, has_addGlobal, or_assoc]
    simp

theorem has_addMark (s : Suppressions) (mark : SuppressionMark) (e : Entry) :
    (s.addMark mark).Has e ↔ s.Has e ∨ e = .ofMark mark := by
  rw [addMark, Entry.ofMark]
  split
  · exact has_addGlobal s mark.ruleId e
  · split
    · exact has_addFile s mark.ruleId mark.file e
    · exact has_addInline s mark.file mark.line mark.ruleId e

theorem has_addMarks (s : Suppressions) (marks : List SuppressionMark) (e : Entry) :
    (s.addMarks marks).Has e ↔ s.Has e ∨ ∃ mark ∈ marks, e = .ofMark mark := by
  induction marks generalizing s with
  | nil => simp [addMarks]
  | cons mark marks ih =>
    change ((s.addMark mark).addMarks marks).Has e ↔ _
    rw [ih, has_addMark, or_assoc]
    simp

theorem has_merge (s other : Suppressions) (e : Entry) : (s.merge other).Has e ↔ s.Has e ∨ other.Has e := by
  cases e with
  | inline => simp only [Has, merge, mem_rulesAt_foldl_addRules, mem_rulesAt_iff other.inline]
  | file => simp only [Has, merge, mem_rulesAt_foldl_addRules, mem_rulesAt_iff other.byFile]
  | everywhere => simp only [Has, merge, mem_foldl_insert]

/-! ### Which findings are suppressed -/

theorem names_iff (ids : List String) (ruleId : String) :
    names ids ruleId = true ↔ ∃ id ∈ ids, id = ruleId ∨ id = "*" := by
  simp only [names, Bool.or_eq_true, decide_eq_true_eq]
  constructor
  · rintro (h | h)
    · exact ⟨ruleId, h, Or.inl rfl⟩
    · exact ⟨"*", h, Or.inr rfl⟩
  · rintro ⟨id, h, rfl | rfl⟩
    · exact Or.inl h
    · exact Or.inr h

/-- A finding is suppressed exactly if an entry hits it. -/
theorem isSuppressed_iff (s : Suppressions) (d : Diagnostic) :
    s.isSuppressed d = true ↔ ∃ e, s.Has e ∧ e.Hits d := by
  simp only [isSuppressed, Bool.or_eq_true, List.any_eq_true, Bool.and_eq_true, names_iff]
  constructor
  · rintro ((⟨id, hid, hrule⟩ | ⟨id, hid, hrule⟩) | ⟨⟨pattern, ids⟩, hmem, ⟨id, hid, hrule⟩, hcovers⟩)
    · exact ⟨.everywhere id, hid, hrule, trivial⟩
    · exact ⟨.inline d.span.file d.span.startLine id, hid, hrule, rfl, rfl⟩
    · exact ⟨.file pattern id, (mem_rulesAt_iff _ _ _).mpr ⟨ids, hmem, hid⟩, hrule, hcovers⟩
  · rintro ⟨e, hhas, hrule, hholds⟩
    cases e with
    | inline file line id =>
      obtain ⟨rfl, rfl⟩ := hholds
      exact Or.inl (Or.inr ⟨id, hhas, hrule⟩)
    | file pattern id =>
      obtain ⟨ids, hmem, hid⟩ := (mem_rulesAt_iff _ _ _).mp hhas
      exact Or.inr ⟨⟨pattern, ids⟩, hmem, ⟨id, hid, hrule⟩, hholds⟩
    | everywhere id => exact Or.inl (Or.inl ⟨id, hhas, hrule⟩)

/-- Some entry of a family hits a finding. -/
theorem exists_hits_iff {α : Type} (xs : List α) (entry : α → Entry) (d : Diagnostic) :
    (∃ e, (∃ x ∈ xs, e = entry x) ∧ e.Hits d) ↔ ∃ x ∈ xs, (entry x).Hits d := by
  constructor
  · rintro ⟨-, ⟨x, hx, rfl⟩, hhits⟩
    exact ⟨x, hx, hhits⟩
  · rintro ⟨x, hx, hhits⟩
    exact ⟨entry x, ⟨x, hx, rfl⟩, hhits⟩

/-- Suppressions written in source suppress the findings that one of them hits. -/
theorem isSuppressed_marks_iff (marks : List SuppressionMark) (d : Diagnostic) :
    (empty.addMarks marks).isSuppressed d = true ↔ ∃ mark ∈ marks, (Entry.ofMark mark).Hits d := by
  rw [isSuppressed_iff]
  simp only [has_addMarks, not_has_empty, false_or, exists_hits_iff]

/-- Suppressions with the same entries suppress the same findings. -/
theorem isSuppressed_congr {s t : Suppressions} (h : ∀ e, s.Has e ↔ t.Has e) (d : Diagnostic) :
    s.isSuppressed d = t.isSuppressed d := by
  rw [Bool.eq_iff_iff, isSuppressed_iff, isSuppressed_iff]
  simp only [h]

theorem isSuppressed_merge (s other : Suppressions) (d : Diagnostic) :
    (s.merge other).isSuppressed d = (s.isSuppressed d || other.isSuppressed d) := by
  rw [Bool.eq_iff_iff, Bool.or_eq_true]
  simp only [isSuppressed_iff, has_merge, or_and_right, exists_or]

theorem isSuppressed_addMarks (s : Suppressions) (marks : List SuppressionMark) (d : Diagnostic) :
    (s.addMarks marks).isSuppressed d = (s.isSuppressed d || (empty.addMarks marks).isSuppressed d) := by
  rw [Bool.eq_iff_iff, Bool.or_eq_true]
  simp only [isSuppressed_iff, has_addMarks, not_has_empty, false_or, or_and_right, exists_or]

@[simp] theorem isSuppressed_empty (d : Diagnostic) : empty.isSuppressed d = false := by
  rw [Bool.eq_false_iff, Ne, isSuppressed_iff]
  simp

/-- The order in which suppressions are written does not matter. -/
theorem isSuppressed_addMarks_perm (s : Suppressions) {marks marks' : List SuppressionMark}
    (h : marks.Perm marks') (d : Diagnostic) :
    (s.addMarks marks).isSuppressed d = (s.addMarks marks').isSuppressed d := by
  apply isSuppressed_congr
  intro e
  simp only [has_addMarks, h.mem_iff]

end Suppressions

end Mediation
