import Mathlib.Data.List.Induction
import Mediation.Proofs.LastOfList
import Mediation.Proofs.RegistryHistory

/-!
# A registry is its history

The state of a registry is a table of checkers and, apart from it, a list of disabled names. Both can be read off the
changes that led there. What was last registered or removed under a name decides whether the name is listed and which
checker stands for it, and what last enabled or disabled it decides whether it is enabled. A name keeps the place that
it had from the first registration since it was last removed, so the checkers stand in the order of these times.

Each part is proved by one step lemma, which says what a change does to it, and an induction at the end of the history.
-/

namespace Mediation.Registry

namespace Change

/-- A change that registers or removes a name. -/
def Lists (name : String) : Change → Prop
  | .register c => c.name = name
  | .unregister removed => removed = name
  | .enable _ | .disable _ => False

/-- A change that enables or disables a name. -/
def Switches (name : String) : Change → Prop
  | .enable switched | .disable switched => switched = name
  | .register _ | .unregister _ => False

end Change

/-- The time of the first registration of a name since it was last removed. -/
structure EnteredAt (history : List Change) (name : String) (time : Nat) : Prop where
  registered : ∃ c, history[time]? = some (.register c) ∧ c.name = name
  kept : ∀ later, time < later → history[later]? ≠ some (.unregister name)
  first : ∀ earlier c, earlier < time → history[earlier]? = some (.register c) → c.name = name →
    ∃ between, earlier < between ∧ between < time ∧ history[between]? = some (.unregister name)

/-- One name was entered before another. -/
def Precedes (history : List Change) (a b : String) : Prop :=
  ∃ i j, EnteredAt history a i ∧ EnteredAt history b j ∧ i < j

/-- A registry is in the state that a history of changes gives to an empty one. -/
structure Reflects (r : Registry) (history : List Change) : Prop where
  find?_eq_some_iff : ∀ name c, r.find? name = some c ↔ IsLast (Change.Lists name) history (.register c)
  mem_all_iff : ∀ name, name ∈ r.all.map Checker.name ↔ ∃ c, IsLast (Change.Lists name) history (.register c)
  mem_enabled_iff : ∀ name, name ∈ r.enabled.map Checker.name
    ↔ (∃ c, IsLast (Change.Lists name) history (.register c))
      ∧ ¬ IsLast (Change.Switches name) history (.disable name)
  nodup_all : (r.all.map Checker.name).Nodup
  existsUnique_time : ∀ name ∈ r.all.map Checker.name, ∃! time, EnteredAt history name time
  all_in_order : (r.all.map Checker.name).Pairwise (Precedes history)
  enabled_in_order : (r.enabled.map Checker.name).Pairwise (Precedes history)
  enabled_sublist_all : r.enabled.Sublist r.all

/-! ### Single changes -/

section Change

variable (r : Registry) (name : String)

theorem after_concat (history : List Change) (step : Change) :
    r.after (history ++ [step]) = (r.after history).change step := by
  rw [after, List.foldl_append]
  rfl

theorem find?_change_of_lists {step : Change} (h : step.Lists name) (c : Checker) :
    (r.change step).find? name = some c ↔ step = .register c := by
  cases step with
  | register registered =>
    rw [change, register, find?, Table.get?_insert, if_pos (show name = registered.name from h.symm)]
    simp
  | unregister removed =>
    rw [change, unregister, find?, Table.get?_erase, if_pos (show name = removed from h.symm)]
    simp
  | enable => exact h.elim
  | disable => exact h.elim

theorem find?_change_of_not_lists {step : Change} (h : ¬ step.Lists name) :
    (r.change step).find? name = r.find? name := by
  cases step with
  | register registered =>
    have hname : name ≠ registered.name := fun heq => h heq.symm
    rw [change, register, find?, Table.get?_insert, if_neg hname, find?]
  | unregister removed =>
    have hname : name ≠ removed := fun heq => h heq.symm
    rw [change, unregister, find?, Table.get?_erase, if_neg hname, find?]
  | enable => rfl
  | disable => rfl

theorem mem_disabled_change_of_switches {step : Change} (h : step.Switches name) :
    name ∈ (r.change step).disabled ↔ step = .disable name := by
  cases step with
  | register => exact h.elim
  | unregister => exact h.elim
  | enable switched =>
    obtain rfl : switched = name := h
    simp [change, enable]
  | disable switched =>
    obtain rfl : switched = name := h
    simp [change, disable]

theorem mem_disabled_change_of_not_switches {step : Change} (h : ¬ step.Switches name) :
    name ∈ (r.change step).disabled ↔ name ∈ r.disabled := by
  cases step with
  | register => rfl
  | unregister => rfl
  | enable switched =>
    have hname : name ≠ switched := fun heq => h heq.symm
    simp [change, enable, hname]
  | disable switched =>
    have hname : name ≠ switched := fun heq => h heq.symm
    simp [change, disable, hname]

end Change

/-! ### What was done last -/

section Last

variable (history : List Change) (name : String)

theorem find?_after_iff (c : Checker) :
    (empty.after history).find? name = some c ↔ IsLast (Change.Lists name) history (.register c) := by
  induction history using List.reverseRecOn with
  | nil => exact iff_of_false (by simp [after, empty, find?]) not_isLast_nil
  | append_singleton history step ih =>
    rw [after_concat]
    by_cases hlists : step.Lists name
    · rw [find?_change_of_lists _ _ hlists, isLast_concat_of_pos hlists, eq_comm]
    · rw [find?_change_of_not_lists _ _ hlists, isLast_concat_of_neg hlists, ih]

theorem mem_disabled_after_iff :
    name ∈ (empty.after history).disabled ↔ IsLast (Change.Switches name) history (.disable name) := by
  induction history using List.reverseRecOn with
  | nil => exact iff_of_false (by simp [after, empty]) not_isLast_nil
  | append_singleton history step ih =>
    rw [after_concat]
    by_cases hswitches : step.Switches name
    · rw [mem_disabled_change_of_switches _ _ hswitches, isLast_concat_of_pos hswitches, eq_comm]
    · rw [mem_disabled_change_of_not_switches _ _ hswitches, isLast_concat_of_neg hswitches, ih]

theorem mem_keys_after_iff :
    name ∈ (empty.after history).checkers.keys ↔ ∃ c, IsLast (Change.Lists name) history (.register c) := by
  rw [Table.mem_keys_iff]
  apply exists_congr
  intro c
  exact find?_after_iff history name c

end Last

/-! ### Times -/

section Time

variable {history : List Change} {name : String} {time : Nat}

theorem EnteredAt.lt_length (h : EnteredAt history name time) : time < history.length := by
  obtain ⟨c, hc, -⟩ := h.registered
  exact (List.getElem?_eq_some_iff.mp hc).1

theorem EnteredAt.eq {time' : Nat} (h : EnteredAt history name time) (h' : EnteredAt history name time') :
    time = time' := by
  -- Of two different times the earlier one would be followed by a removal before the later one.
  have hle : ∀ {i j}, EnteredAt history name i → EnteredAt history name j → i ≤ j := by
    intro i j hi hj
    by_contra hlt
    obtain ⟨c, hc, hname⟩ := hj.registered
    obtain ⟨between, hafter, -, hremoved⟩ := hi.first j c (by omega) hc hname
    exact hj.kept between hafter hremoved
  exact Nat.le_antisymm (hle h h') (hle h' h)

/-- A name that is registered and not removed afterwards was entered at some time. -/
theorem exists_enteredAt {c : Checker} (hc : history[time]? = some (.register c)) (hname : c.name = name)
    (hkept : ∀ later, time < later → history[later]? ≠ some (.unregister name)) :
    ∃ first, EnteredAt history name first := by
  induction time using Nat.strongRecOn generalizing c with
  | ind time ih =>
    by_cases hearlier : ∃ earlier c', earlier < time ∧ history[earlier]? = some (.register c') ∧ c'.name = name
        ∧ ∀ between, earlier < between → between < time → history[between]? ≠ some (.unregister name)
    · obtain ⟨earlier, c', hlt, hc', hname', hnone⟩ := hearlier
      apply ih earlier hlt hc' hname'
      intro later hlater hremoved
      rcases Nat.lt_trichotomy later time with hbefore | rfl | hafter
      · exact hnone later hlater hbefore hremoved
      · rw [hc] at hremoved
        cases hremoved
      · exact hkept later hafter hremoved
    · refine ⟨time, ⟨c, hc, hname⟩, hkept, ?_⟩
      intro earlier c' hlt hc' hname'
      by_contra hnone
      apply hearlier
      refine ⟨earlier, c', hlt, hc', hname', ?_⟩
      intro between hafter hbefore hremoved
      exact hnone ⟨between, hafter, hbefore, hremoved⟩

theorem enteredAt_concat_of_lt {step : Change} (hlt : time < history.length) :
    EnteredAt (history ++ [step]) name time ↔ EnteredAt history name time ∧ step ≠ .unregister name := by
  have hold : ∀ i, i < history.length → (history ++ [step])[i]? = history[i]? :=
    fun i hi => List.getElem?_append_left hi
  constructor
  · intro h
    refine ⟨⟨?_, ?_, ?_⟩, ?_⟩
    · simpa [hold time hlt] using h.registered
    · intro later hlater hremoved
      have hbound := (List.getElem?_eq_some_iff.mp hremoved).1
      exact h.kept later hlater (by rw [hold later hbound, hremoved])
    · intro earlier c hearlier hc hname
      obtain ⟨between, hafter, hbefore, hremoved⟩ := h.first earlier c hearlier (by rw [hold _ (by omega), hc]) hname
      exact ⟨between, hafter, hbefore, by rwa [hold _ (by omega)] at hremoved⟩
    · rintro rfl
      exact h.kept history.length hlt (by simp)
  · rintro ⟨h, hstep⟩
    refine ⟨?_, ?_, ?_⟩
    · simpa [hold time hlt] using h.registered
    · intro later hlater hremoved
      have hbound := (List.getElem?_eq_some_iff.mp hremoved).1
      rw [List.length_append, List.length_singleton] at hbound
      by_cases hend : later = history.length
      · subst hend
        exact hstep (by simpa using hremoved)
      · rw [hold _ (by omega)] at hremoved
        exact h.kept later hlater hremoved
    · intro earlier c hearlier hc hname
      rw [hold _ (by omega)] at hc
      obtain ⟨between, hafter, hbefore, hremoved⟩ := h.first earlier c hearlier hc hname
      exact ⟨between, hafter, hbefore, by rw [hold _ (by omega), hremoved]⟩

/-- A name is entered by the last change if it is registered then and was not entered before. -/
theorem enteredAt_length {c : Checker} (hname : c.name = name) (hnew : ¬ ∃ earlier, EnteredAt history name earlier) :
    EnteredAt (history ++ [.register c]) name history.length := by
  refine ⟨⟨c, by simp, hname⟩, ?_, ?_⟩
  · intro later hlater hremoved
    have hbound := (List.getElem?_eq_some_iff.mp hremoved).1
    rw [List.length_append, List.length_singleton] at hbound
    omega
  · intro earlier c' hearlier hc' hname'
    rw [List.getElem?_append_left hearlier] at hc'
    by_contra hnone
    apply hnew
    apply exists_enteredAt hc' hname'
    intro later hlater hremoved
    have hbound := (List.getElem?_eq_some_iff.mp hremoved).1
    exact hnone ⟨later, hlater, hbound, by rw [List.getElem?_append_left hbound, hremoved]⟩

theorem exists_enteredAt_concat_iff (history : List Change) (step : Change) (name : String) :
    (∃ time, EnteredAt (history ++ [step]) name time)
      ↔ (∃ time, EnteredAt history name time) ∧ step ≠ .unregister name ∨ ∃ c, step = .register c ∧ c.name = name := by
  constructor
  · rintro ⟨time, h⟩
    by_cases hlt : time < history.length
    · obtain ⟨hold, hstep⟩ := (enteredAt_concat_of_lt hlt).mp h
      exact Or.inl ⟨⟨time, hold⟩, hstep⟩
    · have hlength := h.lt_length
      rw [List.length_append, List.length_singleton] at hlength
      obtain rfl : time = history.length := by omega
      obtain ⟨c, hc, hname⟩ := h.registered
      exact Or.inr ⟨c, by simpa using hc, hname⟩
  · rintro (⟨⟨time, hold⟩, hstep⟩ | ⟨c, rfl, hname⟩)
    · exact ⟨time, (enteredAt_concat_of_lt hold.lt_length).mpr ⟨hold, hstep⟩⟩
    · by_cases hold : ∃ time, EnteredAt history name time
      · obtain ⟨time, hold⟩ := hold
        exact ⟨time, (enteredAt_concat_of_lt hold.lt_length).mpr ⟨hold, by simp⟩⟩
      · exact ⟨history.length, enteredAt_length hname hold⟩

theorem Precedes.concat {a b : String} (h : Precedes history a b) {step : Change} (ha : step ≠ .unregister a)
    (hb : step ≠ .unregister b) : Precedes (history ++ [step]) a b := by
  obtain ⟨i, j, hi, hj, hlt⟩ := h
  exact ⟨i, j, (enteredAt_concat_of_lt hi.lt_length).mpr ⟨hi, ha⟩,
    (enteredAt_concat_of_lt hj.lt_length).mpr ⟨hj, hb⟩, hlt⟩

end Time

/-! ### The order of names -/

theorem mem_keys_change_iff (r : Registry) (step : Change) (name : String) :
    name ∈ (r.change step).checkers.keys
      ↔ name ∈ r.checkers.keys ∧ step ≠ .unregister name ∨ ∃ c, step = .register c ∧ c.name = name := by
  cases step with
  | register c =>
    rw [change, register, Table.insert, Table.keys_alter]
    split
    · rename_i hmem
      simp only [ne_eq, reduceCtorEq, not_false_eq_true, and_true, Change.register.injEq, exists_eq_left']
      exact ⟨Or.inl, fun h => h.elim id fun heq => heq ▸ hmem⟩
    · simp [eq_comm]
  | unregister removed =>
    rw [change, unregister, Table.keys_erase, List.mem_filter, decide_eq_true_eq, ne_comm]
    simp
  | enable => simp [change, enable]
  | disable => simp [change, disable]

theorem mem_keys_after_iff_exists_enteredAt (history : List Change) (name : String) :
    name ∈ (empty.after history).checkers.keys ↔ ∃ time, EnteredAt history name time := by
  induction history using List.reverseRecOn with
  | nil =>
    refine iff_of_false (by simp [after, empty]) ?_
    rintro ⟨time, h⟩
    exact absurd h.lt_length (Nat.not_lt_zero time)
  | append_singleton history step ih => rw [after_concat, mem_keys_change_iff, exists_enteredAt_concat_iff, ih]

theorem pairwise_keys_after (history : List Change) :
    (empty.after history).checkers.keys.Pairwise (Precedes history) := by
  induction history using List.reverseRecOn with
  | nil => exact .nil
  | append_singleton history step ih =>
    rw [after_concat]
    cases step with
    | register c =>
      have hkept : (empty.after history).checkers.keys.Pairwise (Precedes (history ++ [.register c])) :=
        ih.imp fun h => h.concat (by simp) (by simp)
      rw [change, register, Table.insert, Table.keys_alter]
      split
      · exact hkept
      · -- A new name goes to the end, and all others were entered before.
        rename_i hnew
        rw [mem_keys_after_iff_exists_enteredAt] at hnew
        rw [List.pairwise_append]
        refine ⟨hkept, List.pairwise_singleton _ _, ?_⟩
        intro a ha b hb
        obtain rfl := List.mem_singleton.mp hb
        obtain ⟨i, hi⟩ := (mem_keys_after_iff_exists_enteredAt history a).mp ha
        exact ⟨i, history.length, (enteredAt_concat_of_lt hi.lt_length).mpr ⟨hi, by simp⟩,
          enteredAt_length rfl hnew, hi.lt_length⟩
    | unregister removed =>
      rw [change, unregister, Table.keys_erase]
      refine (ih.filter _).imp_of_mem ?_
      intro a b ha hb h
      have ha' : a ≠ removed := by simpa using (List.mem_filter.mp ha).2
      have hb' : b ≠ removed := by simpa using (List.mem_filter.mp hb).2
      exact h.concat (by simpa using ha'.symm) (by simpa using hb'.symm)
    | enable => exact ih.imp fun h => h.concat (by simp) (by simp)
    | disable => exact ih.imp fun h => h.concat (by simp) (by simp)

/-! ### The whole registry -/

theorem reflects_after (history : List Change) : (empty.after history).Reflects history := by
  have hlabelled : (empty.after history).Labelled := labelled_empty.after history
  have hall := hlabelled.names_all
  have henabled := hlabelled.names_enabled
  constructor
  case find?_eq_some_iff => exact find?_after_iff history
  case mem_all_iff =>
    intro name
    rw [hall, mem_keys_after_iff]
  case mem_enabled_iff =>
    intro name
    rw [henabled, List.mem_filter, mem_keys_after_iff, decide_eq_true_eq, mem_disabled_after_iff]
  case nodup_all =>
    rw [hall]
    exact Table.nodup_keys _
  case existsUnique_time =>
    intro name hname
    rw [hall, mem_keys_after_iff_exists_enteredAt] at hname
    obtain ⟨time, htime⟩ := hname
    exact ⟨time, htime, fun other hother => hother.eq htime⟩
  case all_in_order =>
    rw [hall]
    exact pairwise_keys_after history
  case enabled_in_order =>
    rw [henabled]
    exact (pairwise_keys_after history).filter _
  case enabled_sublist_all => exact List.filter_sublist.map Prod.snd

/-- Whatever is registered, removed, enabled and disabled in whatever order, a registry that was empty or the standard
one at first is what its history says, where the history of the standard one begins with the checkers of the suite. -/
theorem registry_reflects_history (changes : List Change) :
    (empty.after changes).Reflects changes
      ∧ (standard.after changes).Reflects (suite.map .register ++ changes) := by
  have hstandard : standard.after changes = empty.after (suite.map .register ++ changes) := by
    rw [after, after, List.foldl_append]
    rfl
  rw [hstandard]
  exact ⟨reflects_after changes, reflects_after _⟩

end Mediation.Registry
