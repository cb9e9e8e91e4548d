import Mathlib.Data.List.Induction

/-!
# The last of a kind

What was said last about something is what counts in settings, and what was done last to something is what counts in
registries. Both are the last element of a list with a property.
-/

namespace Mediation

/-- The last element of a list with a property. -/
def IsLast {α : Type} (P : α → Prop) (xs : List α) (x : α) : Prop :=
  ∃ before later, xs = before ++ x :: later ∧ P x ∧ ∀ y ∈ later, ¬ P y

variable {α β : Type} {P Q : α → Prop} {xs : List α} {x : α}

theorem IsLast.mem (h : IsLast P xs x) : x ∈ xs := by
  obtain ⟨before, later, rfl, -, -⟩ := h
  simp

theorem IsLast.holds (h : IsLast P xs x) : P x := by
  obtain ⟨before, later, -, hx, -⟩ := h
  exact hx

theorem IsLast.congr (hiff : ∀ y ∈ xs, P y ↔ Q y) (h : IsLast P xs x) : IsLast Q xs x := by
  obtain ⟨before, later, rfl, hx, hlater⟩ := h
  refine ⟨before, later, rfl, (hiff x (by simp)).mp hx, ?_⟩
  intro y hy hQ
  exact hlater y hy ((hiff y (by simp [hy])).mpr hQ)

@[simp] theorem not_isLast_nil : ¬ IsLast P [] x := by
  rintro ⟨before, later, heq, -⟩
  simp at heq

theorem isLast_concat_of_pos {last : α} (hlast : P last) : IsLast P (xs ++ [last]) x ↔ x = last := by
  constructor
  · rintro ⟨before, later, heq, -, hlater⟩
    rcases List.eq_nil_or_concat later with rfl | ⟨between, y, rfl⟩
    · exact (List.cons.inj (List.append_inj' heq rfl).2).1.symm
    · rw [List.concat_eq_append, ← List.cons_append, ← List.append_assoc] at heq
      obtain rfl : last = y := (List.cons.inj (List.append_inj' heq rfl).2).1
      exact absurd hlast (hlater last (by simp))
  · rintro rfl
    exact ⟨xs, [], rfl, hlast, by simp⟩

theorem isLast_concat_of_neg {last : α} (hlast : ¬ P last) : IsLast P (xs ++ [last]) x ↔ IsLast P xs x := by
  constructor
  · rintro ⟨before, later, heq, hx, hlater⟩
    rcases List.eq_nil_or_concat later with rfl | ⟨between, y, rfl⟩
    · obtain rfl : last = x := (List.cons.inj (List.append_inj' heq rfl).2).1
      exact absurd hx hlast
    · rw [List.concat_eq_append, ← List.cons_append, ← List.append_assoc] at heq
      exact ⟨before, between, (List.append_inj' heq rfl).1, hx, fun z hz => hlater z (by simp [hz])⟩
  · rintro ⟨before, later, rfl, hx, hlater⟩
    refine ⟨before, later ++ [last], by simp, hx, ?_⟩
    simpa [or_imp, forall_and, hlast] using hlater

theorem IsLast.eq_of_concat {last : α} (h : IsLast P (xs ++ [last]) x) (hlast : P last) : x = last :=
  (isLast_concat_of_pos hlast).mp h

theorem exists_isLast (h : ∃ y ∈ xs, P y) : ∃ y, IsLast P xs y := by
  induction xs using List.reverseRecOn with
  | nil => simp at h
  | append_singleton xs last ih =>
    by_cases hlast : P last
    · exact ⟨last, (isLast_concat_of_pos hlast).mpr rfl⟩
    · obtain ⟨y, hy, hP⟩ := h
      rcases List.mem_append.mp hy with hy | hy
      · obtain ⟨z, hz⟩ := ih ⟨y, hy, hP⟩
        exact ⟨z, (isLast_concat_of_neg hlast).mpr hz⟩
      · exact absurd (List.mem_singleton.mp hy ▸ hP) hlast

theorem getLast?_filterMap_eq_some_iff (f : α → Option β) (xs : List α) (b : β) :
    (xs.filterMap f).getLast? = some b ↔ ∃ x, IsLast (fun y => (f y).isSome = true) xs x ∧ f x = some b := by
  constructor
  · intro h
    obtain ⟨bs, hbs⟩ := List.getLast?_eq_some_iff.mp h
    obtain ⟨front, rest, rfl, -, hrest⟩ := List.filterMap_eq_append_iff.mp hbs
    obtain ⟨between, x, later, rfl, -, hx, hlater⟩ := List.filterMap_eq_cons_iff.mp hrest
    rw [List.filterMap_eq_nil_iff] at hlater
    refine ⟨x, ⟨front ++ between, later, by simp, by simp [hx], ?_⟩, hx⟩
    intro y hy
    simp [hlater y hy]
  · rintro ⟨x, ⟨before, later, rfl, -, hlater⟩, hx⟩
    have hnil : later.filterMap f = [] := by
      rw [List.filterMap_eq_nil_iff]
      simpa using hlater
    rw [List.filterMap_append, List.filterMap_cons_some hx, hnil, List.getLast?_append]
    rfl

end Mediation
