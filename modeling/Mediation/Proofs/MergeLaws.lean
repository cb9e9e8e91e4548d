import Mathlib.Data.List.Basic
import Mediation.Proofs.MergedRuns

/-!
# The laws of merging

Merging reports is associative as long as statistics are added exactly: findings are appended, the tables by checker
and by statistic are combined key by key, and names are taken up in the order in which they come first. So a run over
several programs falls into runs over parts of them, and each program contributes what it contributes alone. Whatever
the times were, they show in the statistics only.
-/

namespace Mediation

/-! ### Names -/

namespace Report

theorem mem_addNames (name : String) (names others : List String) :
    name ∈ addNames names others ↔ name ∈ names ∨ name ∈ others := by
  rw [addNames]
  induction others generalizing names with
  | nil => simp
  | cons other others ih =>
    rw [List.foldl_cons, ih]
    split
    · rename_i hmem
      rw [List.mem_cons]
      constructor
      · rintro (h | h)
        · exact .inl h
        · exact .inr (.inr h)
      · rintro (h | rfl | h)
        · exact .inl h
        · exact .inl hmem
        · exact .inr h
    · rw [List.mem_append, List.mem_singleton, List.mem_cons, or_assoc]

theorem addNames_concat (names others : List String) (name : String) :
    addNames names (others ++ [name])
      = if name ∈ addNames names others then addNames names others else addNames names others ++ [name] := by
  rw [addNames, List.foldl_append]
  rfl

theorem addNames_assoc (names others more : List String) :
    addNames (addNames names others) more = addNames names (addNames others more) := by
  induction more generalizing others with
  | nil => rfl
  | cons name more ih =>
    change addNames (if name ∈ addNames names others then _ else _) more
      = addNames names (addNames (if name ∈ others then others else others ++ [name]) more)
    rw [← ih]
    congr 1
    by_cases hname : name ∈ others
    · rw [if_pos hname, if_pos ((mem_addNames name names others).mpr (.inr hname))]
    · rw [if_neg hname, addNames_concat]

end Report

/-! ### Tables -/

namespace Table

section Equality

variable {κ ν : Type} [DecidableEq κ]

/-- A table is determined by the order of its keys and by its values. -/
theorem eq_of_keys_of_get? {t u : Table κ ν} (hkeys : t.keys = u.keys) (hget : ∀ k, t.get? k = u.get? k) : t = u := by
  have hentries : t.entries = u.entries := by
    have hlength : t.entries.length = u.entries.length := by
      simpa only [keys, List.length_map] using congrArg List.length hkeys
    refine List.ext_getElem hlength fun i ht hu => ?_
    have hkey : t.entries[i].1 = u.entries[i].1 := by
      have h := List.getElem_of_eq hkeys (i := i) (by simpa [keys] using ht)
      simpa only [keys, List.getElem_map] using h
    have hvalue : t.get? t.entries[i].1 = some t.entries[i].2 :=
      (t.get?_eq_some_iff _ _).mpr (List.getElem_mem ht)
    have hvalue' : u.get? u.entries[i].1 = some u.entries[i].2 :=
      (u.get?_eq_some_iff _ _).mpr (List.getElem_mem hu)
    rw [hget, hkey, hvalue'] at hvalue
    exact Prod.ext hkey (Option.some.inj hvalue).symm
  cases t
  cases u
  cases hentries
  rfl

/-- Only what becomes of the present value matters. -/
theorem alter_congr (t : Table κ ν) (k : κ) {f g : Option ν → ν} (h : f (t.get? k) = g (t.get? k)) :
    t.alter k f = t.alter k g := by
  refine eq_of_keys_of_get? (by rw [keys_alter, keys_alter]) fun j => ?_
  rw [get?_alter, get?_alter, h]

end Equality

variable {ν : Type} (op : ν → ν → ν)

/-- The entries of `u` added to those of `t`; two values at one key are combined. -/
def combine (t u : Table String ν) : Table String ν :=
  u.entries.foldl (fun t e => t.alter e.1 fun found => found.elim e.2 (op · e.2)) t

theorem keys_foldl_alter (f : String × ν → Option ν → ν) (es : List (String × ν)) (t : Table String ν) :
    (es.foldl (fun t e => t.alter e.1 (f e)) t).keys = Report.addNames t.keys (es.map Prod.fst) := by
  induction es generalizing t with
  | nil => rfl
  | cons e es ih =>
    rw [List.foldl_cons, ih, keys_alter]
    rfl

theorem keys_combine (t u : Table String ν) : (combine op t u).keys = Report.addNames t.keys u.keys :=
  keys_foldl_alter _ u.entries t

theorem get?_foldl_alter {es : List (String × ν)} (hes : (es.map Prod.fst).Nodup) (t : Table String ν) (k : String) :
    (es.foldl (fun t e => t.alter e.1 fun found => found.elim e.2 (op · e.2)) t).get? k
      = Option.merge op (t.get? k) (lookup k es) := by
  induction es generalizing t with
  | nil => rw [List.foldl_nil, lookup, Option.merge_none_right]
  | cons e es ih =>
    obtain ⟨j, v⟩ := e
    obtain ⟨hj, hes⟩ := List.nodup_cons.mp hes
    rw [List.foldl_cons, ih hes, get?_alter, lookup]
    by_cases hk : j = k
    · -- The key comes once, so nothing else is added to its value.
      have hnone : lookup k es = none := by
        cases hlookup : lookup k es with
        | none => rfl
        | some w => exact absurd (List.mem_map_of_mem ((lookup_eq_some_iff hes k w).mp hlookup)) (hk ▸ hj)
      rw [if_pos hk.symm, if_pos hk, hnone, Option.merge_none_right, hk]
      cases t.get? k <;> rfl
    · rw [if_neg (Ne.symm hk), if_neg hk]

theorem get?_combine (t u : Table String ν) (k : String) :
    (combine op t u).get? k = Option.merge op (t.get? k) (u.get? k) :=
  get?_foldl_alter op u.nodup t k

variable {op}

/-- Combining is associative if the values at each key are combined so. -/
theorem combine_assoc {t u v : Table String ν}
    (h : ∀ k a b c, t.get? k = some a → u.get? k = some b → v.get? k = some c → op (op a b) c = op a (op b c)) :
    combine op (combine op t u) v = combine op t (combine op u v) := by
  refine eq_of_keys_of_get? ?_ fun k => ?_
  · simp only [keys_combine, Report.addNames_assoc]
  · simp only [get?_combine]
    cases ht : t.get? k with
    | none => simp only [Option.merge_none_left]
    | some a =>
      cases hu : u.get? k with
      | none => simp only [Option.merge_none_left, Option.merge_none_right]
      | some b =>
        cases hv : v.get? k with
        | none => simp only [Option.merge_none_right]
        | some c => exact congrArg some (h k a b c ht hu hv)

end Table

/-! ### Exact statistics -/

namespace Amount

/-- The sum of two amounts that can be added. -/
def plus (a b : Amount) : Amount := (a.add b).toOption.getD a

/-- Amounts whose sums are not rounded. -/
structure Exact (S : Amount → Prop) : Prop extends Summable S where
  zero_add_eq : ∀ {a}, S a → (whole 0).add a = .ok a
  plus_assoc : ∀ {a b c}, S a → S b → S c → (a.plus b).plus c = a.plus (b.plus c)

theorem Summable.add_eq_plus {S : Amount → Prop} (h : Summable S) {a b : Amount} (ha : S a) (hb : S b) :
    a.add b = .ok (a.plus b) ∧ S (a.plus b) := by
  obtain ⟨sum, hsum, hS⟩ := h.add ha hb
  rw [plus, hsum]
  exact ⟨rfl, hS⟩

/-- Whether an amount is a whole number. -/
def IsWhole (a : Amount) : Prop := ∃ n, a = .whole n

theorem exact_isWhole : Exact IsWhole where
  zero_add := by
    rintro - ⟨n, rfl⟩
    exact ⟨_, rfl, _, rfl⟩
  add := by
    rintro - - ⟨m, rfl⟩ ⟨n, rfl⟩
    exact ⟨_, rfl, _, rfl⟩
  zero_add_eq := by
    rintro - ⟨n, rfl⟩
    exact congrArg (Except.ok ∘ whole) (Int.zero_add n)
  plus_assoc := by
    rintro - - - ⟨l, rfl⟩ ⟨m, rfl⟩ ⟨n, rfl⟩
    exact congrArg whole (Int.add_assoc l m n)

/-- No time at all can be added up. -/
theorem exact_noTime : Exact (· = .float (.zero false)) := by
  have hzero : (whole 0).add (.float (.zero false)) = .ok (.float (.zero false)) := by decide +kernel
  have hadd : (float (.zero false)).add (.float (.zero false)) = .ok (.float (.zero false)) := by decide +kernel
  have hplus : (float (.zero false)).plus (.float (.zero false)) = .float (.zero false) := by rw [plus, hadd]; rfl
  refine ⟨⟨?_, ?_⟩, ?_, ?_⟩
  · rintro - rfl
    exact ⟨_, hzero, rfl⟩
  · rintro - - rfl rfl
    exact ⟨_, hadd, rfl⟩
  · rintro - rfl
    exact hzero
  · rintro - - - rfl rfl rfl
    rw [hplus]

end Amount

namespace Report

open Amount (Summable Exact)

variable {S : Amount → Prop}

theorem addStats_eq_foldl (hS : Exact S) {entries : List (String × Amount)} (hentries : ∀ entry ∈ entries, S entry.2)
    {stats : Table String Amount} (h : Within S stats) :
    (addStats stats entries).1
      = entries.foldl (fun t e => t.alter e.1 fun found => found.elim e.2 (Amount.plus · e.2)) stats := by
  induction entries generalizing stats with
  | nil => rfl
  | cons entry entries ih =>
    obtain ⟨key, amount⟩ := entry
    have hamount : S amount := hentries _ List.mem_cons_self
    have hsum : ((stats.get? key).getD (.whole 0)).add amount
        = .ok ((stats.get? key).elim amount (Amount.plus · amount)) := by
      cases hkey : stats.get? key with
      | none => exact hS.zero_add_eq hamount
      | some found => exact (hS.add_eq_plus (h key found hkey) hamount).1
    have hwithin : S ((stats.get? key).elim amount (Amount.plus · amount)) := by
      cases hkey : stats.get? key with
      | none => exact hamount
      | some found => exact (hS.add_eq_plus (h key found hkey) hamount).2
    have hinsert : stats.insert key ((stats.get? key).elim amount (Amount.plus · amount))
        = stats.alter key fun found => found.elim amount (Amount.plus · amount) :=
      stats.alter_congr key rfl
    rw [addStats, hsum, List.foldl_cons, ← hinsert]
    exact ih (fun entry hentry => hentries entry (List.mem_cons_of_mem _ hentry)) (h.insert key hwithin)

theorem stats_merge (hS : Exact S) {r other : Report} (h : Within S r.stats) (hother : Within S other.stats) :
    (r.merge other).stats = r.stats.combine Amount.plus other.stats :=
  addStats_eq_foldl hS (fun _ hentry => hother.of_mem_entries hentry) h

theorem byChecker_merge (r other : Report) :
    (r.merge other).byChecker = r.byChecker.combine (· ++ ·) other.byChecker := by
  have hfound : ∀ (e : String × List Diagnostic) (found : Option (List Diagnostic)),
      found.getD [] ++ e.2 = found.elim e.2 (· ++ e.2) := by
    intro e found
    cases found <;> rfl
  simp only [merge, Table.combine, hfound]

theorem eq_of_components {a b : Report} (hemitted : a.emitted = b.emitted) (hgroups : a.byChecker = b.byChecker)
    (hstats : a.stats = b.stats) (hnames : a.checkerNames = b.checkerNames) : a = b := by
  cases a
  cases b
  cases hemitted
  cases hgroups
  cases hstats
  cases hnames
  rfl

theorem merge_assoc (hS : Exact S) {a b c : Report} (ha : Within S a.stats) (hb : Within S b.stats)
    (hc : Within S c.stats) : (a.merge b).merge c = a.merge (b.merge c) := by
  have hab := within_merge hS.toSummable ha hb
  have hbc := within_merge hS.toSummable hb hc
  apply eq_of_components
  · simp only [emitted_merge, List.append_assoc]
  · simp only [byChecker_merge]
    exact Table.combine_assoc fun _ x y z _ _ _ => List.append_assoc x y z
  · rw [stats_merge hS hab hc, stats_merge hS ha hb, stats_merge hS ha hbc, stats_merge hS hb hc]
    exact Table.combine_assoc fun k x y z hx hy hz => hS.plus_assoc (ha k x hx) (hb k y hy) (hc k z hz)
  · rw [checkerNames_merge hS.toSummable hab hc, checkerNames_merge hS.toSummable ha hb,
      checkerNames_merge hS.toSummable ha hbc, checkerNames_merge hS.toSummable hb hc, addNames_assoc]

theorem merge_empty (r : Report) : r.merge {} = r :=
  eq_of_components (List.append_nil _) rfl rfl rfl

theorem foldl_merge_eq_merge (hS : Exact S) {a b : Report} (ha : Within S a.stats) (hb : Within S b.stats)
    {reports : List Report} (h : ∀ r ∈ reports, Within S r.stats) :
    reports.foldl merge (a.merge b) = a.merge (reports.foldl merge b) := by
  induction reports generalizing b with
  | nil => rfl
  | cons c reports ih =>
    have hc := h c List.mem_cons_self
    rw [List.foldl_cons, List.foldl_cons, merge_assoc hS ha hb hc]
    exact ih (within_merge hS.toSummable hb hc) fun r hr => h r (List.mem_cons_of_mem _ hr)

theorem mergeAll_append (hS : Exact S) {as bs : List Report} (has : ∀ a ∈ as, Within S a.stats)
    (hbs : ∀ b ∈ bs, Within S b.stats) : mergeAll (as ++ bs) = (mergeAll as).merge (mergeAll bs) := by
  have hfold := foldl_merge_eq_merge hS (within_mergeAll hS.toSummable has) within_empty hbs (b := {})
  rw [merge_empty] at hfold
  rw [mergeAll, List.foldl_append]
  exact hfold

/-! ### Reports without their statistics -/

/-- The report without its statistics. -/
def untimed (r : Report) : Report := { r with stats := .empty }

theorem within_untimed (r : Report) : Within S r.untimed.stats := within_empty

theorem untimed_merge (hS : Summable S) {r other : Report} (h : Within S r.stats) (hother : Within S other.stats) :
    (r.merge other).untimed = r.untimed.merge other.untimed := by
  refine eq_of_components rfl rfl rfl ?_
  exact checkerNames_merge hS h hother

theorem untimed_foldl_merge (hS : Summable S) {reports : List Report} (h : ∀ r ∈ reports, Within S r.stats)
    {report : Report} (hreport : Within S report.stats) :
    (reports.foldl merge report).untimed = (reports.map untimed).foldl merge report.untimed := by
  induction reports generalizing report with
  | nil => rfl
  | cons other reports ih =>
    have hother := h other List.mem_cons_self
    rw [List.foldl_cons, ih (fun r hr => h r (List.mem_cons_of_mem _ hr)) (within_merge hS hreport hother),
      untimed_merge hS hreport hother]
    rfl

theorem untimed_mergeAll_append (hS : Summable S) {as bs : List Report} (has : ∀ a ∈ as, Within S a.stats)
    (hbs : ∀ b ∈ bs, Within S b.stats) :
    (mergeAll (as ++ bs)).untimed = ((mergeAll as).merge (mergeAll bs)).untimed := by
  have hall : ∀ r ∈ as ++ bs, Within S r.stats := fun r hr => (List.mem_append.mp hr).elim (has r) (hbs r)
  have huntimed : ∀ {reports : List Report}, ∀ r ∈ reports.map untimed, Within Amount.IsWhole r.stats := by
    intro reports r hr
    obtain ⟨r, -, rfl⟩ := List.mem_map.mp hr
    exact r.within_untimed
  have hmergeAll : ∀ {reports : List Report}, (∀ r ∈ reports, Within S r.stats) →
      (mergeAll reports).untimed = mergeAll (reports.map untimed) :=
    fun h => untimed_foldl_merge hS h within_empty
  -- Without statistics there is nothing to round.
  rw [untimed_merge hS (within_mergeAll hS has) (within_mergeAll hS hbs), hmergeAll hall, hmergeAll has, hmergeAll hbs,
    List.map_append, mergeAll_append Amount.exact_isWhole huntimed huntimed]

end Report

/-! ### Several programs -/

namespace Runner

/-- A program with times that are measured in the given sort of numbers. -/
def timedBy {α : Type} (amount : α → Amount) (timed : Program × (String → α)) : Program × (String → Amount) :=
  (timed.1, fun name => amount (timed.2 name))

variable {S : Amount → Prop} (r : Runner) (names : Option (List String))

theorem runManyTimed_append (hS : Amount.Exact S) {xs ys : List (Program × (String → Amount))}
    (hxs : ∀ timed ∈ xs, ∀ name, S (timed.2 name)) (hys : ∀ timed ∈ ys, ∀ name, S (timed.2 name)) :
    r.runManyTimed (xs ++ ys) names = (r.runManyTimed xs names).merge (r.runManyTimed ys names) := by
  simp only [runManyTimed_eq_mergeAll, List.map_append]
  exact Report.mergeAll_append hS (r.within_of_mem_runs hxs names) (r.within_of_mem_runs hys names)

theorem untimed_runManyTimed_append (hS : Amount.Summable S) {xs ys : List (Program × (String → Amount))}
    (hxs : ∀ timed ∈ xs, ∀ name, S (timed.2 name)) (hys : ∀ timed ∈ ys, ∀ name, S (timed.2 name)) :
    (r.runManyTimed (xs ++ ys) names).untimed
      = ((r.runManyTimed xs names).merge (r.runManyTimed ys names)).untimed := by
  simp only [runManyTimed_eq_mergeAll, List.map_append]
  exact Report.untimed_mergeAll_append hS (r.within_of_mem_runs hxs names) (r.within_of_mem_runs hys names)

theorem of_mem_map_timedBy {α : Type} {amount : α → Amount} (hamount : ∀ time, S (amount time))
    {programs : List (Program × (String → α))} :
    ∀ timed ∈ programs.map (timedBy amount), ∀ name, S (timed.2 name) := by
  intro timed htimed name
  obtain ⟨program, -, rfl⟩ := List.mem_map.mp htimed
  exact hamount (program.2 name)

/-- A run over several programs is the merge of the runs over any two parts. All of it agrees when times are counted
in whole units, which are added exactly (a finite floating-point time is a whole number of the least unit), and all but
the statistics when they are added as floating-point numbers. Each program contributes what it contributes alone, and
the findings are these contributions after one stable sort. -/
theorem runMany_in_parts :
    (∀ xs ys : List (Program × (String → Int)),
      r.runManyTimed ((xs ++ ys).map (timedBy .whole)) names
        = (r.runManyTimed (xs.map (timedBy .whole)) names).merge (r.runManyTimed (ys.map (timedBy .whole)) names))
    ∧ (∀ xs ys : List (Program × (String → Binary64)),
      (r.runManyTimed ((xs ++ ys).map (timedBy .float)) names).untimed
        = ((r.runManyTimed (xs.map (timedBy .float)) names).merge
          (r.runManyTimed (ys.map (timedBy .float)) names)).untimed)
    ∧ (∀ xs ys : List Program, r.runMany (xs ++ ys) names = (r.runMany xs names).merge (r.runMany ys names))
    ∧ ∀ programs : List (Program × (String → Amount)),
      let contributed := programs.flatMap fun timed => (r.run timed.1 names).emitted
      (r.runManyTimed programs names).emitted = contributed
      ∧ (r.runManyTimed programs names).diagnostics = Diagnostic.sort contributed
      ∧ ((r.runManyTimed programs names).diagnostics.Pairwise fun a b => a.sortKey ≤ b.sortKey)
      ∧ ∀ k, Diagnostic.atKey k (r.runManyTimed programs names).diagnostics = Diagnostic.atKey k contributed := by
  refine ⟨fun xs ys => ?_, fun xs ys => ?_, fun xs ys => ?_, fun programs => ?_⟩
  · rw [List.map_append]
    exact r.runManyTimed_append names Amount.exact_isWhole (of_mem_map_timedBy fun n => ⟨n, rfl⟩)
      (of_mem_map_timedBy fun n => ⟨n, rfl⟩)
  · rw [List.map_append]
    exact r.untimed_runManyTimed_append names Amount.summable_isFloat (of_mem_map_timedBy fun time => ⟨time, rfl⟩)
      (of_mem_map_timedBy fun time => ⟨time, rfl⟩)
  · have hnoTime : ∀ (programs : List Program), ∀ timed ∈ programs.map fun p => (p, noTime), ∀ name,
        timed.2 name = .float (.zero false) := by
      intro programs timed htimed name
      obtain ⟨p, -, rfl⟩ := List.mem_map.mp htimed
      rfl
    rw [runMany, List.map_append]
    exact r.runManyTimed_append names Amount.exact_noTime (hnoTime xs) (hnoTime ys)
  · rw [Report.diagnostics, emitted_runManyTimed]
    exact ⟨rfl, rfl, Diagnostic.pairwise_sort _, fun k => Diagnostic.atKey_sort k _⟩

end Runner

end Mediation
