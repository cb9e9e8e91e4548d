import Mathlib.Data.List.Forall2
import Mathlib.Data.Prod.Lex
import Mathlib.Data.String.Basic
import Mediation.Diagnostic

/-!
# The order of findings

Sorting findings is a stable sort by one key, the five parts of the span followed by the rule. Stability is what
the rest of the theory uses: a sorted list is determined by the lists of its findings with each key, and sorting
leaves these lists as they are. So sorting commutes with everything that keeps keys, and sorting parts before the
whole changes nothing.
-/

namespace Mediation

namespace Diagnostic

/-- What findings are ordered by. -/
abbrev SortKey := String ×ₗ Int ×ₗ Int ×ₗ Int ×ₗ Int ×ₗ String

/-- The key of a finding: file, start line, start column, end line, end column and rule. -/
def sortKey (d : Diagnostic) : SortKey :=
  toLex (d.span.file, toLex (d.span.startLine, toLex (d.span.startColumn, toLex (d.span.endLine,
    toLex (d.span.endColumn, d.ruleId)))))

/-- The findings with a given key. -/
def atKey (k : SortKey) (ds : List Diagnostic) : List Diagnostic := ds.filter fun d => d.sortKey = k

theorem le_iff_sortKey_le (a b : Diagnostic) : le a b = true ↔ a.sortKey ≤ b.sortKey := by
  have hrule : (compare a.ruleId b.ruleId).isLE = true ↔ a.ruleId ≤ b.ruleId := by
    rw [Ordering.isLE_iff_ne_gt]
    exact compare_le_iff_le
  simp only [le, order, Span.order, compareLex, compareOn, Ordering.then_assoc, Ordering.isLE_then_iff_or,
    compare_lt_iff_lt, compare_eq_iff_eq, hrule, sortKey, Prod.Lex.toLex_le_toLex]

theorem sortKey_eq_iff (a b : Diagnostic) : a.sortKey = b.sortKey ↔ a.span = b.span ∧ a.ruleId = b.ruleId := by
  constructor
  · intro h
    simp only [sortKey, EmbeddingLike.apply_eq_iff_eq, Prod.mk.injEq] at h
    obtain ⟨hfile, hline, hcolumn, hendLine, hendColumn, hrule⟩ := h
    refine ⟨?_, hrule⟩
    cases ha : a.span
    cases hb : b.span
    simp_all
  · rintro ⟨hspan, hrule⟩
    rw [sortKey, sortKey, hspan, hrule]

/-! ### Sorting by the key -/

theorem sort_perm (ds : List Diagnostic) : (sort ds).Perm ds := List.mergeSort_perm ds le

theorem le_transitive (a b c : Diagnostic) (hab : le a b = true) (hbc : le b c = true) : le a c = true := by
  rw [le_iff_sortKey_le] at hab hbc ⊢
  exact hab.trans hbc

theorem le_or_le (a b : Diagnostic) : (le a b || le b a) = true := by
  rw [Bool.or_eq_true, le_iff_sortKey_le, le_iff_sortKey_le]
  exact le_total a.sortKey b.sortKey

theorem pairwise_sort (ds : List Diagnostic) : (sort ds).Pairwise fun a b => a.sortKey ≤ b.sortKey := by
  have h := List.pairwise_mergeSort le_transitive le_or_le ds
  exact h.imp fun hab => (le_iff_sortKey_le _ _).mp hab

/-- Findings with one key keep their order. -/
theorem atKey_sort (k : SortKey) (ds : List Diagnostic) : atKey k (sort ds) = atKey k ds := by
  have hkeys : ∀ d ∈ atKey k ds, d.sortKey = k := by
    intro d hd
    simpa [atKey] using (List.mem_filter.mp hd).2
  have hpairwise : (atKey k ds).Pairwise fun a b => le a b = true := by
    rw [List.pairwise_iff_forall_sublist]
    intro a b hab
    have ha := hkeys a (hab.subset (by simp))
    have hb := hkeys b (hab.subset (by simp))
    rw [le_iff_sortKey_le, ha, hb]
  -- The findings with the key are a sorted part of the list, so a stable sort keeps them as a part of its result.
  have hsub : (atKey k ds).Sublist (sort ds) :=
    List.sublist_mergeSort le_transitive le_or_le hpairwise List.filter_sublist
  have hsub' : (atKey k ds).Sublist (atKey k (sort ds)) := by
    have h := hsub.filter fun d => decide (d.sortKey = k)
    simpa only [atKey, List.filter_filter, Bool.and_self] using h
  have hlength : (atKey k (sort ds)).length = (atKey k ds).length := ((sort_perm ds).filter _).length_eq
  exact (hsub'.eq_of_length hlength.symm).symm

/-- A list in the order of keys is determined by its findings with each key. -/
theorem eq_of_pairwise_of_atKey {xs ys : List Diagnostic}
    (hxs : xs.Pairwise fun a b => a.sortKey ≤ b.sortKey) (hys : ys.Pairwise fun a b => a.sortKey ≤ b.sortKey)
    (h : ∀ k, atKey k xs = atKey k ys) : xs = ys := by
  induction xs generalizing ys with
  | nil =>
    cases ys with
    | nil => rfl
    | cons y ys =>
      have hy := h y.sortKey
      simp [atKey] at hy
  | cons x xs ih =>
    cases ys with
    | nil =>
      have hx := h x.sortKey
      simp [atKey] at hx
    | cons y ys =>
      -- Each head occurs in the other list, hence the heads have the least key on both sides.
      have hmem : ∀ d, d ∈ x :: xs ↔ d ∈ y :: ys := by
        intro d
        have hd := h d.sortKey
        have hleft : d ∈ atKey d.sortKey (x :: xs) ↔ d ∈ x :: xs := by simp [atKey]
        have hright : d ∈ atKey d.sortKey (y :: ys) ↔ d ∈ y :: ys := by simp [atKey]
        rw [← hleft, ← hright, hd]
      have hxy : x.sortKey ≤ y.sortKey := by
        rcases List.mem_cons.mp ((hmem y).mpr (by simp)) with heq | hy
        · rw [heq]
        · exact (List.pairwise_cons.mp hxs).1 y hy
      have hyx : y.sortKey ≤ x.sortKey := by
        rcases List.mem_cons.mp ((hmem x).mp (by simp)) with heq | hx
        · rw [heq]
        · exact (List.pairwise_cons.mp hys).1 x hx
      have hkey : y.sortKey = x.sortKey := le_antisymm hyx hxy
      have hhead := h x.sortKey
      simp only [atKey, List.filter_cons, decide_true, if_true, hkey, List.cons.injEq] at hhead
      obtain ⟨rfl, -⟩ := hhead
      congr 1
      apply ih (List.pairwise_cons.mp hxs).2 (List.pairwise_cons.mp hys).2
      intro k
      have hk := h k
      by_cases hx : x.sortKey = k
      · simpa [atKey, hx] using hk
      · simpa [atKey, hx] using hk

theorem eq_sort_of_atKey {xs ds : List Diagnostic} (hxs : xs.Pairwise fun a b => a.sortKey ≤ b.sortKey)
    (h : ∀ k, atKey k xs = atKey k ds) : xs = sort ds := by
  apply eq_of_pairwise_of_atKey hxs (pairwise_sort ds)
  intro k
  rw [h k, atKey_sort]

/-! ### What sorting commutes with -/

theorem filter_sort (p : Diagnostic → Bool) (ds : List Diagnostic) :
    (sort ds).filter p = sort (ds.filter p) := by
  apply eq_sort_of_atKey ((pairwise_sort ds).filter p)
  intro k
  have hswap : ∀ l : List Diagnostic, atKey k (l.filter p) = (atKey k l).filter p := by
    intro l
    simp only [atKey, List.filter_filter, Bool.and_comm]
  rw [hswap, hswap, atKey_sort]

theorem map_sort (f : Diagnostic → Diagnostic) (hf : ∀ d, (f d).sortKey = d.sortKey) (ds : List Diagnostic) :
    (sort ds).map f = sort (ds.map f) := by
  have hpairwise : ((sort ds).map f).Pairwise fun a b => a.sortKey ≤ b.sortKey := by
    rw [List.pairwise_map]
    simpa only [hf] using pairwise_sort ds
  apply eq_sort_of_atKey hpairwise
  intro k
  have hswap : ∀ l : List Diagnostic, atKey k (l.map f) = (atKey k l).map f := by
    intro l
    simp only [atKey, List.filter_map, Function.comp_def, hf]
  rw [hswap, hswap, atKey_sort]

/-- Sorting the parts before the whole changes nothing. -/
theorem sort_flatMap_sort {α : Type} (parts : List α) (f : α → List Diagnostic) :
    sort (parts.flatMap fun part => sort (f part)) = sort (parts.flatMap f) := by
  apply eq_sort_of_atKey (pairwise_sort _)
  intro k
  rw [atKey_sort]
  induction parts with
  | nil => rfl
  | cons part parts ih =>
    simp only [atKey, List.flatMap_cons, List.filter_append] at ih ⊢
    rw [ih]
    congr 1
    exact atKey_sort k (f part)

/-- Lists with the same findings have the same keys in the same places once they are sorted. -/
theorem map_sortKey_sort_of_perm {ds es : List Diagnostic} (h : ds.Perm es) :
    (sort ds).map sortKey = (sort es).map sortKey := by
  have hperm : ((sort ds).map sortKey).Perm ((sort es).map sortKey) :=
    (((sort_perm ds).trans h).trans (sort_perm es).symm).map sortKey
  have hsorted : ∀ l : List Diagnostic, ((sort l).map sortKey).Pairwise (· ≤ ·) := by
    intro l
    rw [List.pairwise_map]
    exact pairwise_sort l
  exact hperm.eq_of_pairwise (fun a b _ _ => le_antisymm) (hsorted ds) (hsorted es)

theorem map_place_sort_of_perm {ds es : List Diagnostic} (h : ds.Perm es) :
    ((sort ds).map fun d => (d.span, d.ruleId)) = (sort es).map fun d => (d.span, d.ruleId) := by
  have hkeys := map_sortKey_sort_of_perm h
  rw [← List.forall₂_eq_eq_eq, List.forall₂_map_left_iff, List.forall₂_map_right_iff] at hkeys ⊢
  apply hkeys.imp
  intro a b hab
  exact Prod.ext_iff.mpr ((sortKey_eq_iff a b).mp hab)

end Diagnostic

end Mediation
