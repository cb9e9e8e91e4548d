import Mathlib.Data.List.Basic
import Mediation.Proofs.LevelSettings
import Mediation.Rule.Catalog

/-!
# Keys of rules

Keys of settings are read in lower case, and the identifier in a key is raised to upper case to be compared with those
of the rules. Lower case has no capital letters of the Latin alphabet. The characters that identifiers of the suite
consist of are the upper case of themselves and of the small letter only, and they are no part of the upper case of
another character. So each rule of the suite has one key.
-/

namespace Mediation

namespace Text

/-- A capital letter of the Latin alphabet without marks. -/
def IsCapital (c : Char) : Prop := 0x41 ≤ c.toNat ∧ c.toNat ≤ 0x5a

instance (c : Char) : Decidable (IsCapital c) := inferInstanceAs (Decidable (_ ∧ _))

/-- The characters in the identifiers of the suite. -/
def idChars : List Char := ['G', 'M', 'D', 'T', 'R', '0', '1', '2', '3', '4', '5', '6', '7', '8', '9']

theorem toNat_ofNat_or (n : Nat) : (Char.ofNat n).toNat = n ∨ (Char.ofNat n).toNat = 0 := by
  by_cases hvalid : n.isValidChar
  · rw [Char.ofNat, dif_pos hvalid]
    exact Or.inl rfl
  · rw [Char.ofNat, dif_neg hvalid]
    exact Or.inr rfl

/-! ### Lower case -/

theorem not_isCapital_of_mem_lowerChar {c d : Char} (h : d ∈ lowerChar c) : ¬ IsCapital d := by
  rcases lowerChar_cases c with ⟨e, he, heq⟩ | ⟨run, hrun, hcovers, heq⟩ | ⟨hnone, heq⟩
  · have htable : ∀ e ∈ lowerExpansions, ∀ code ∈ e.2, ¬ IsCapital (Char.ofNat code) := by decide
    rw [heq, List.mem_map] at h
    obtain ⟨code, hcode, rfl⟩ := h
    exact htable e he code hcode
  · have htable : ∀ run ∈ lowerRuns, 0x5a < run.first + run.shift := by decide +kernel
    have hshift := htable run hrun
    rw [heq, List.mem_singleton] at h
    simp only [CaseRun.covers, Bool.and_eq_true, decide_eq_true_eq] at hcovers
    rcases toNat_ofNat_or (c.toNat + run.shift).toNat with hcode | hcode
    · rw [IsCapital, h, hcode]
      omega
    · rw [IsCapital, h, hcode]
      omega
  · have hfirst := hnone ⟨0x41, 0x5a, 1, 32⟩ List.mem_cons_self
    rw [heq, List.mem_singleton] at h
    simp only [CaseRun.covers, Nat.mod_one, beq_self_eq_true, Bool.and_true, Bool.and_eq_false_iff,
      decide_eq_false_iff_not] at hfirst
    rw [IsCapital, h]
    omega

theorem not_isCapital_lowerSigma (before after : List Char) : ¬ IsCapital (lowerSigma before after) := by
  rw [lowerSigma]
  split <;> decide

theorem not_isCapital_of_mem_lowerAfter {before cs : List Char} {d : Char} (h : d ∈ lowerAfter before cs) :
    ¬ IsCapital d := by
  induction cs generalizing before with
  | nil => simp [lowerAfter] at h
  | cons c cs ih =>
    rw [lowerAfter, List.mem_append] at h
    rcases h with h | h
    · split at h
      · rw [List.mem_singleton.mp h]
        exact not_isCapital_lowerSigma before cs
      · exact not_isCapital_of_mem_lowerChar h
    · exact ih h

theorem not_isCapital_of_mem_lower {s : String} {d : Char} (h : d ∈ (lower s).toList) : ¬ IsCapital d := by
  rw [lower, String.toList_ofList] at h
  exact not_isCapital_of_mem_lowerAfter h

/-! ### Upper case -/

theorem range_of_mem_idChars {d : Char} (h : d ∈ idChars) : 0x30 ≤ d.toNat ∧ d.toNat ≤ 0x5a := by
  revert d
  -- A decision over the list, where one over all characters would not end.
  rw [← List.forall_iff_forall_mem]
  decide

/-- Only the small letter and the character itself have a character of identifiers as their upper case. -/
theorem eq_toLower_of_upperChar {c : Char} (hc : ¬ IsCapital c) (h : ∀ d ∈ upperChar c, d ∈ idChars) :
    ∃ d, upperChar c = [d] ∧ c = d.toLower := by
  rcases upperChar_cases c with ⟨e, he, heq⟩ | ⟨run, hrun, hcovers, heq⟩ | ⟨-, heq⟩
  · have htable : ∀ e ∈ upperExpansions, ∃ code ∈ e.2, Char.ofNat code ∉ idChars := by decide +kernel
    obtain ⟨code, hcode, hnot⟩ := htable e he
    rw [heq] at h
    exact absurd (h _ (List.mem_map_of_mem hcode)) hnot
  · have htable : ∀ run ∈ upperRuns, run.first = 0x61 ∧ run.last = 0x7a ∧ run.shift = -32
        ∨ 0x5a < run.first + run.shift
        ∨ run.first = run.last ∧ Char.ofNat (run.first + run.shift).toNat ∉ idChars := by decide +kernel
    have hmem : Char.ofNat (c.toNat + run.shift).toNat ∈ idChars := h _ (by rw [heq]; exact List.mem_singleton_self _)
    refine ⟨_, heq, ?_⟩
    simp only [CaseRun.covers, Bool.and_eq_true, decide_eq_true_eq] at hcovers
    have hrange := range_of_mem_idChars hmem
    rcases htable run hrun with ⟨hfirst, hlast, hshift⟩ | hhigh | ⟨hsingle, hnot⟩
    · have hraise : ∀ d ∈ idChars, 0x41 ≤ d.toNat → Char.ofNat (d.toNat + 32) = d.toLower := by
        rw [← List.forall_iff_forall_mem]
        decide
      have hcode : (Char.ofNat (c.toNat + run.shift).toNat).toNat + 32 = c.toNat := by
        rcases toNat_ofNat_or (c.toNat + run.shift).toNat with hcode | hcode <;> omega
      rw [← hraise _ hmem (by omega), hcode, Char.ofNat_toNat]
    · rcases toNat_ofNat_or (c.toNat + run.shift).toNat with hcode | hcode <;> omega
    · have hcode : c.toNat = run.first := by omega
      rw [hcode] at hmem
      exact absurd hmem hnot
  · have hself : ∀ d ∈ idChars, ¬ IsCapital d → d = d.toLower := by
      rw [← List.forall_iff_forall_mem]
      decide
    rw [heq] at h
    exact ⟨c, heq, hself c (h c (List.mem_singleton_self c)) hc⟩

theorem eq_map_toLower_of_upper {cs ds : List Char} (hcs : ∀ c ∈ cs, ¬ IsCapital c) (hds : ∀ d ∈ ds, d ∈ idChars)
    (h : cs.flatMap upperChar = ds) : cs = ds.map Char.toLower := by
  induction cs generalizing ds with
  | nil =>
    rw [List.flatMap_nil] at h
    rw [← h, List.map_nil]
  | cons c cs ih =>
    rw [List.flatMap_cons] at h
    subst h
    obtain ⟨d, hd, hc⟩ := eq_toLower_of_upperChar (hcs c List.mem_cons_self) fun d hd =>
      hds d (List.mem_append_left _ hd)
    have hrest := ih (fun c' hc' => hcs c' (List.mem_cons_of_mem _ hc')) (fun d' hd' =>
      hds d' (List.mem_append_right _ hd')) rfl
    rw [hd, List.map_append, ← hrest, List.map_cons, List.map_nil, ← hc, List.singleton_append]

end Text

namespace Rule

/-- The key of the settings of a rule, in lower case. -/
def settingKey (r : Rule) : String :=
  LevelTarget.ruleStart ++ String.ofList (r.id.toList.map Char.toLower) ++ LevelTarget.tail

theorem id_ne_empty {r : Rule} (hr : r ∈ all) : r.id ≠ "" := by
  revert r
  decide

theorem mem_idChars_of_mem_id {r : Rule} (hr : r ∈ all) : ∀ d ∈ r.id.toList, d ∈ Text.idChars := by
  revert r
  simp only [← List.forall_iff_forall_mem]
  decide

theorem upper_toLower_id {r : Rule} (hr : r ∈ all) :
    Text.upper (String.ofList (r.id.toList.map Char.toLower)) = r.id := by
  revert r
  decide +kernel

/-- A key in lower case is about a rule of the suite exactly if it is the key of the rule. -/
theorem ofKey?_lower_eq_rule_iff {r : Rule} (hr : r ∈ all) {key s : String} (hkey : key = Text.lower s) :
    LevelTarget.ofKey? key = some (.rule r.id) ↔ key = r.settingKey := by
  rw [LevelTarget.ofKey?_eq_rule_iff (id_ne_empty hr)]
  constructor
  · rintro ⟨name, hname, hupper⟩
    have hcapital : ∀ c ∈ name.toList, ¬ Text.IsCapital c := by
      intro c hc
      apply Text.not_isCapital_of_mem_lower
      rw [← hkey, hname]
      simp [hc]
    have hchars : name.toList.flatMap Text.upperChar = r.id.toList := by
      rw [← hupper, Text.upper, String.toList_ofList]
    have hlower := Text.eq_map_toLower_of_upper hcapital (mem_idChars_of_mem_id hr) hchars
    rw [hname, settingKey, ← hlower, String.ofList_toList]
  · intro h
    exact ⟨_, h, upper_toLower_id hr⟩

end Rule

end Mediation
