/-!
# Tables in insertion order

A finite map that remembers in which order its keys came. Writing to a key that is present changes the
value and keeps the place; a new key goes to the end, and so does a key that was erased and comes back.
-/

namespace Mediation

/-- Entries with pairwise distinct keys, the oldest first. -/
structure Table (κ ν : Type) where
  entries : List (κ × ν)
  nodup : (entries.map Prod.fst).Nodup

namespace Table

variable {κ ν : Type}

def empty : Table κ ν := ⟨[], by simp⟩

instance : Inhabited (Table κ ν) := ⟨empty⟩

def keys (t : Table κ ν) : List κ := t.entries.map Prod.fst

def values (t : Table κ ν) : List ν := t.entries.map Prod.snd

def isEmpty (t : Table κ ν) : Bool := t.entries.isEmpty

@[simp] theorem keys_empty : (empty : Table κ ν).keys = [] := rfl

theorem nodup_keys (t : Table κ ν) : t.keys.Nodup := t.nodup

variable [DecidableEq κ]

/-- The value beside the first entry with key `k`. -/
def lookup (k : κ) : List (κ × ν) → Option ν
  | [] => none
  | (j, v) :: rest => if j = k then some v else lookup k rest

/-- The entries after the value of `k` has become `f` of what it was. -/
def alterEntries (k : κ) (f : Option ν → ν) : List (κ × ν) → List (κ × ν)
  | [] => [(k, f none)]
  | (j, v) :: rest => if j = k then (j, f (some v)) :: rest else (j, v) :: alterEntries k f rest

theorem keys_alterEntries (k : κ) (f : Option ν → ν) (es : List (κ × ν)) :
    (alterEntries k f es).map Prod.fst
      = if k ∈ es.map Prod.fst then es.map Prod.fst else es.map Prod.fst ++ [k] := by
  induction es with
  | nil => simp [alterEntries]
  | cons e es ih =>
    obtain ⟨j, v⟩ := e
    by_cases hj : j = k
    · simp [alterEntries, hj]
    · have hk : ¬ k = j := fun h => hj h.symm
      simp only [alterEntries, if_neg hj, List.map_cons, List.mem_cons, hk, false_or, ih]
      split <;> simp

theorem nodup_alterEntries (k : κ) (f : Option ν → ν) {es : List (κ × ν)}
    (h : (es.map Prod.fst).Nodup) : ((alterEntries k f es).map Prod.fst).Nodup := by
  rw [keys_alterEntries]
  split
  · exact h
  · rename_i hk
    rw [List.nodup_append]
    refine ⟨h, by simp, fun a ha b hb => ?_⟩
    rw [List.mem_singleton] at hb
    exact fun hab => hk (hb ▸ hab ▸ ha)

/-- The value of `k`, if the table has one. -/
def get? (t : Table κ ν) (k : κ) : Option ν := lookup k t.entries

def contains (t : Table κ ν) (k : κ) : Bool := (t.get? k).isSome

/-- Makes the value of `k` what `f` says, given the value it had. -/
def alter (t : Table κ ν) (k : κ) (f : Option ν → ν) : Table κ ν :=
  ⟨alterEntries k f t.entries, nodup_alterEntries k f t.nodup⟩

def insert (t : Table κ ν) (k : κ) (v : ν) : Table κ ν := t.alter k fun _ => v

/-- Writes `v` at `k` unless `k` has a value already. -/
def insertNew (t : Table κ ν) (k : κ) (v : ν) : Table κ ν := t.alter k (·.getD v)

def erase (t : Table κ ν) (k : κ) : Table κ ν where
  entries := t.entries.filter fun e => e.1 ≠ k
  nodup := t.nodup.sublist (List.filter_sublist.map Prod.fst)

/-- The table that results from writing the entries one after the other. -/
def ofEntries (es : List (κ × ν)) : Table κ ν := es.foldl (fun t e => t.insert e.1 e.2) empty

/-- All entries of `t`, then overridden and extended by those of `u`. -/
def override (t u : Table κ ν) : Table κ ν := u.entries.foldl (fun t e => t.insert e.1 e.2) t

theorem lookup_alterEntries (j k : κ) (f : Option ν → ν) (es : List (κ × ν)) :
    lookup j (alterEntries k f es) = if j = k then some (f (lookup k es)) else lookup j es := by
  induction es with
  | nil => simp only [alterEntries, lookup, eq_comm]
  | cons e es ih =>
    obtain ⟨i, v⟩ := e
    by_cases hi : i = k <;> by_cases hj : j = k
    · subst hi hj; simp [alterEntries, lookup]
    · subst hi
      have hij : ¬ i = j := fun h => hj h.symm
      simp [alterEntries, lookup, hij, hj]
    · subst hj; simp [alterEntries, lookup, hi, ih]
    · simp [alterEntries, lookup, hi, hj, ih]

@[simp] theorem get?_empty (k : κ) : (empty : Table κ ν).get? k = none := rfl

theorem get?_alter (t : Table κ ν) (j k : κ) (f : Option ν → ν) :
    (t.alter k f).get? j = if j = k then some (f (t.get? k)) else t.get? j :=
  lookup_alterEntries j k f t.entries

theorem get?_insert (t : Table κ ν) (j k : κ) (v : ν) :
    (t.insert k v).get? j = if j = k then some v else t.get? j :=
  get?_alter t j k _

theorem lookup_eq_some_iff {es : List (κ × ν)} (h : (es.map Prod.fst).Nodup) (k : κ) (v : ν) :
    lookup k es = some v ↔ (k, v) ∈ es := by
  induction es with
  | nil => simp [lookup]
  | cons e es ih =>
    obtain ⟨j, w⟩ := e
    rw [List.map_cons, List.nodup_cons] at h
    by_cases hj : j = k
    · subst hj
      have hnot : (j, v) ∉ es := fun hmem => h.1 (List.mem_map.mpr ⟨(j, v), hmem, rfl⟩)
      simp [lookup, hnot, eq_comm]
    · have hk : ¬ k = j := fun hkj => hj hkj.symm
      simp [lookup, hj, hk, ih h.2]

theorem get?_eq_some_iff (t : Table κ ν) (k : κ) (v : ν) : t.get? k = some v ↔ (k, v) ∈ t.entries :=
  lookup_eq_some_iff t.nodup k v

theorem mem_keys_iff (t : Table κ ν) (k : κ) : k ∈ t.keys ↔ ∃ v, t.get? k = some v := by
  rw [keys, List.mem_map]
  constructor
  · rintro ⟨⟨_, v⟩, hmem, rfl⟩
    exact ⟨v, (t.get?_eq_some_iff _ v).mpr hmem⟩
  · rintro ⟨v, hv⟩
    exact ⟨(k, v), (t.get?_eq_some_iff k v).mp hv, rfl⟩

theorem get?_erase (t : Table κ ν) (j k : κ) : (t.erase k).get? j = if j = k then none else t.get? j := by
  apply Option.ext
  intro v
  rw [get?_eq_some_iff, erase, List.mem_filter, decide_eq_true_eq]
  by_cases hj : j = k
  · rw [if_pos hj]
    exact iff_of_false (fun h => h.2 hj) (Option.some_ne_none v).symm
  · rw [if_neg hj, get?_eq_some_iff]
    exact and_iff_left hj

theorem keys_alter (t : Table κ ν) (k : κ) (f : Option ν → ν) :
    (t.alter k f).keys = if k ∈ t.keys then t.keys else t.keys ++ [k] :=
  keys_alterEntries k f t.entries

theorem keys_erase (t : Table κ ν) (k : κ) : (t.erase k).keys = t.keys.filter (· ≠ k) := by
  simp only [keys, erase, List.filter_map]
  rfl

end Table

end Mediation
