import Mathlib.Data.List.Induction
import Mathlib.Logic.Function.Basic
import Mediation.Configuration.Basic
import Mediation.Proofs.SuppressionEntries
import Mediation.Rule.Catalog

/-!
# Suppressions over time

Several suppressions are filled side by side: with marks written in source, with file patterns, with rules for all
files, with what a configuration asks for, and with each other. Whatever the history, each of them holds the entries
that have reached it and no others. A merge passes on the entries that the other side had at that time. As nothing ever
removes an entry, the answers only depend on which entries came, and more of them never bring a finding back.
-/

namespace Mediation

/-- Whether a mark suppresses a finding. Without a file it holds everywhere, with a line on that line, and on line zero
in its file and in all files that its path matches as a pattern. -/
def SuppressionMark.AppliesTo (mark : SuppressionMark) (d : Diagnostic) : Prop :=
  (mark.ruleId = d.ruleId ∨ mark.ruleId = "*")
    ∧ (mark.file = ""
      ∨ mark.file ≠ "" ∧ mark.line ≠ 0 ∧ mark.file = d.span.file ∧ mark.line = d.span.startLine
      ∨ mark.file ≠ "" ∧ mark.line = 0 ∧ (mark.file = d.span.file ∨ Glob.fits mark.file d.span.file = true))

namespace Suppressions

theorem hits_ofMark_iff (mark : SuppressionMark) (d : Diagnostic) :
    (Entry.ofMark mark).Hits d ↔ mark.AppliesTo d := by
  rw [Entry.ofMark, SuppressionMark.AppliesTo]
  by_cases hfile : mark.file = ""
  · simp [hfile, Entry.Hits, Entry.HoldsAt, Entry.ruleId]
  · by_cases hline : mark.line = 0
    · simp [hfile, hline, Entry.Hits, Entry.HoldsAt, Entry.ruleId, covers]
    · simp [hfile, hline, Entry.Hits, Entry.HoldsAt, Entry.ruleId]

variable {ι : Type}

/-- An operation on one of several suppressions, which are told apart by labels. -/
inductive Operation (ι : Type) where
  | addMarks (on : ι) (marks : List SuppressionMark)
  | addFile (on : ι) (ruleId pattern : String)
  | addGlobal (on : ι) (ruleId : String)
  | configure (on : ι) (c : Configuration)
  | merge (on other : ι)

namespace Operation

/-- The suppressions that an operation changes. -/
def target : Operation ι → ι
  | .addMarks on _ => on
  | .addFile on _ _ => on
  | .addGlobal on _ => on
  | .configure on _ => on
  | .merge on _ => on

/-- The suppressions whose entries an operation passes on. -/
def source? : Operation ι → Option ι
  | .merge _ other => some other
  | _ => none

/-- The entries that an operation brings by itself. -/
def entries : Operation ι → List Entry
  | .addMarks _ marks => marks.map .ofMark
  | .addFile _ ruleId pattern => [.file pattern ruleId]
  | .addGlobal _ ruleId => [.everywhere ruleId]
  | .configure _ c => c.suppressed.map .everywhere
  | .merge _ _ => []

/-- What an operation makes of the suppressions that it changes. -/
def result (stores : ι → Suppressions) : Operation ι → Suppressions
  | .addMarks on marks => (stores on).addMarks marks
  | .addFile on ruleId pattern => (stores on).addFile ruleId pattern
  | .addGlobal on ruleId => (stores on).addGlobal ruleId
  | .configure on c => c.apply (stores on)
  | .merge on other => (stores on).merge (stores other)

theorem has_result (stores : ι → Suppressions) (op : Operation ι) (e : Entry) :
    (op.result stores).Has e
      ↔ (stores op.target).Has e ∨ e ∈ op.entries ∨ ∃ other, op.source? = some other ∧ (stores other).Has e := by
  cases op with
  | addMarks on marks => simp [result, target, entries, source?, has_addMarks, eq_comm]
  | addFile on ruleId pattern => simp [result, target, entries, source?, has_addFile]
  | addGlobal on ruleId => simp [result, target, entries, source?, has_addGlobal]
  | configure on c => simp [result, target, entries, source?, Configuration.apply, has_foldl_addGlobal, eq_comm]
  | merge on other => simp [result, target, entries, source?, has_merge]

end Operation

/-! ### Which entries arrive -/

/-- An entry has reached the suppressions with a label: an operation of the history brought it there, or a merge with
suppressions that it had reached by then. -/
inductive Reached : List (Operation ι) → ι → Entry → Prop
  | brought {before later : List (Operation ι)} {op : Operation ι} {e : Entry} (he : e ∈ op.entries) :
      Reached (before ++ op :: later) op.target e
  | merged {before later : List (Operation ι)} {op : Operation ι} {other : ι} {e : Entry}
      (hsource : op.source? = some other) (he : Reached before other e) : Reached (before ++ op :: later) op.target e

/-- An operation brings an entry, by itself or from the suppressions that it reads, which come by the history. -/
def Brings (history : List (Operation ι)) (op : Operation ι) (e : Entry) : Prop :=
  e ∈ op.entries ∨ ∃ other, op.source? = some other ∧ Reached history other e

theorem not_reached_nil (m : ι) (e : Entry) : ¬ Reached [] m e := by
  generalize hnil : ([] : List (Operation ι)) = history
  intro h
  cases h with
  | brought => simp at hnil
  | merged => simp at hnil

theorem Brings.reached {history : List (Operation ι)} {op : Operation ι} {e : Entry} (h : Brings history op e)
    (later : List (Operation ι)) : Reached (history ++ op :: later) op.target e := by
  rcases h with he | ⟨other, hsource, he⟩
  · exact .brought he
  · exact .merged hsource he

theorem Reached.exists_brings {history : List (Operation ι)} {m : ι} {e : Entry} (h : Reached history m e) :
    ∃ before op later, history = before ++ op :: later ∧ op.target = m ∧ Brings before op e := by
  cases h with
  | brought he => exact ⟨_, _, _, rfl, rfl, Or.inl he⟩
  | merged hsource he => exact ⟨_, _, _, rfl, rfl, Or.inr ⟨_, hsource, he⟩⟩

/-- What has reached a label stays there. -/
theorem Reached.append {history : List (Operation ι)} {m : ι} {e : Entry} (h : Reached history m e)
    (later : List (Operation ι)) : Reached (history ++ later) m e := by
  obtain ⟨before, op, between, rfl, rfl, hbrings⟩ := h.exists_brings
  rw [List.append_assoc, List.cons_append]
  exact hbrings.reached (between ++ later)

theorem reached_concat_iff (history : List (Operation ι)) (op : Operation ι) (m : ι) (e : Entry) :
    Reached (history ++ [op]) m e ↔ Reached history m e ∨ op.target = m ∧ Brings history op e := by
  constructor
  · intro h
    obtain ⟨before, first, later, hhistory, htarget, hbrings⟩ := h.exists_brings
    rcases List.eq_nil_or_concat later with rfl | ⟨between, last, rfl⟩
    · obtain ⟨rfl, hop⟩ := List.append_inj' hhistory rfl
      obtain rfl := List.singleton_inj.mp hop
      exact Or.inr ⟨htarget, hbrings⟩
    · rw [List.concat_eq_append, ← List.cons_append, ← List.append_assoc] at hhistory
      obtain ⟨rfl, -⟩ := List.append_inj' hhistory rfl
      exact Or.inl (htarget ▸ hbrings.reached between)
  · rintro (h | ⟨rfl, hbrings⟩)
    · exact h.append [op]
    · exact hbrings.reached []

/-! ### Operations in any order -/

/-- No operation reads suppressions that one of the operations changes. -/
def Independent (block : List (Operation ι)) : Prop :=
  ∀ op ∈ block, ∀ other, op.source? = some other → ∀ op' ∈ block, op'.target ≠ other

/-- Independent operations bring what they would bring first. -/
theorem Independent.reached_append_iff {block : List (Operation ι)} (h : Independent block)
    (history : List (Operation ι)) (m : ι) (e : Entry) :
    Reached (history ++ block) m e
      ↔ Reached history m e ∨ ∃ op ∈ block, op.target = m ∧ Brings history op e := by
  induction block using List.reverseRecOn generalizing m with
  | nil => simp
  | append_singleton block last ih =>
    have hblock : Independent block := by
      intro op hop other hsource op' hop'
      exact h op (List.mem_append_left _ hop) other hsource op' (List.mem_append_left _ hop')
    -- What the last operation reads is untouched by the operations before it.
    have hlast : Brings (history ++ block) last e ↔ Brings history last e := by
      apply or_congr_right
      apply exists_congr
      intro other
      apply and_congr_right
      intro hsource
      rw [ih hblock]
      apply or_iff_left
      rintro ⟨op, hop, htarget, -⟩
      exact h last (by simp) other hsource op (List.mem_append_left _ hop) htarget
    rw [← List.append_assoc, reached_concat_iff, ih hblock, hlast, or_assoc]
    apply or_congr_right
    constructor
    · rintro (⟨op, hop, hbrings⟩ | hbrings)
      · exact ⟨op, List.mem_append_left _ hop, hbrings⟩
      · exact ⟨last, by simp, hbrings⟩
    · rintro ⟨op, hop, hbrings⟩
      rcases List.mem_append.mp hop with hop | hop
      · exact Or.inl ⟨op, hop, hbrings⟩
      · rw [List.mem_singleton.mp hop] at hbrings
        exact Or.inr hbrings

theorem Independent.reached_perm {block block' : List (Operation ι)} (h : Independent block)
    (hperm : block.Perm block') (history : List (Operation ι)) (m : ι) (e : Entry) :
    Reached (history ++ block) m e ↔ Reached (history ++ block') m e := by
  have h' : Independent block' := by
    intro op hop other hsource op' hop'
    exact h op (hperm.mem_iff.mpr hop) other hsource op' (hperm.mem_iff.mpr hop')
  simp only [h.reached_append_iff, h'.reached_append_iff, hperm.mem_iff]

/-! ### The suppressions of a history -/

variable [DecidableEq ι]

/-- All suppressions after one more operation. -/
def perform (stores : ι → Suppressions) (op : Operation ι) : ι → Suppressions :=
  Function.update stores op.target (op.result stores)

/-- All suppressions after a history. They are empty at first. -/
def after (history : List (Operation ι)) : ι → Suppressions := history.foldl perform fun _ => empty

theorem after_concat (history : List (Operation ι)) (op : Operation ι) :
    after (history ++ [op]) = perform (after history) op := by
  rw [after, List.foldl_append]
  rfl

theorem has_perform (stores : ι → Suppressions) (op : Operation ι) (m : ι) (e : Entry) :
    (perform stores op m).Has e
      ↔ (stores m).Has e
        ∨ op.target = m ∧ (e ∈ op.entries ∨ ∃ other, op.source? = some other ∧ (stores other).Has e) := by
  rw [perform]
  by_cases hm : op.target = m
  · subst hm
    rw [Function.update_self, op.has_result]
    simp
  · rw [Function.update_of_ne (Ne.symm hm)]
    simp [hm]

theorem has_after_iff (history : List (Operation ι)) (m : ι) (e : Entry) :
    (after history m).Has e ↔ Reached history m e := by
  induction history using List.reverseRecOn generalizing m with
  | nil => exact iff_of_false (not_has_empty e) (not_reached_nil m e)
  | append_singleton history op ih =>
    rw [after_concat, has_perform, reached_concat_iff]
    simp only [ih, Brings]

theorem isSuppressed_after_iff (history : List (Operation ι)) (m : ι) (d : Diagnostic) :
    (after history m).isSuppressed d = true ↔ ∃ e, Reached history m e ∧ e.Hits d := by
  rw [isSuppressed_iff]
  simp only [has_after_iff]

theorem isSuppressed_after_congr {history history' : List (Operation ι)} {m : ι}
    (h : ∀ e, Reached history m e ↔ Reached history' m e) (d : Diagnostic) :
    (after history m).isSuppressed d = (after history' m).isSuppressed d := by
  apply isSuppressed_congr
  intro e
  rw [has_after_iff, has_after_iff, h]

theorem isSuppressed_after_merge (history : List (Operation ι)) (m other : ι) (d : Diagnostic) :
    (after (history ++ [.merge m other]) m).isSuppressed d
      = ((after history m).isSuppressed d || (after history other).isSuppressed d) := by
  have hstore : after (history ++ [.merge m other]) m = (after history m).merge (after history other) := by
    rw [after_concat]
    exact Function.update_self _ _ _
  rw [hstore, isSuppressed_merge]

/-- After any history a finding is suppressed exactly if an entry that has reached the suppressions hits it. So a merge
suppresses what either side does, the same entries give the same answers, operations that do not read each other's
results may change places, and later operations never bring a finding back. -/
theorem suppressed_by_reached_entries (history : List (Operation ι)) (m : ι) (d : Diagnostic) :
    ((after history m).isSuppressed d = true ↔ ∃ e, Reached history m e ∧ e.Hits d)
      ∧ (∀ mark, (Entry.ofMark mark).Hits d ↔ mark.AppliesTo d)
      ∧ (∀ other, (after (history ++ [.merge m other]) m).isSuppressed d
          = ((after history m).isSuppressed d || (after history other).isSuppressed d))
      ∧ (∀ history', (∀ e, Reached history m e ↔ Reached history' m e) →
          (after history m).isSuppressed d = (after history' m).isSuppressed d)
      ∧ (∀ block block', Independent block → block.Perm block' →
          (after (history ++ block) m).isSuppressed d = (after (history ++ block') m).isSuppressed d)
      ∧ ∀ later, (after history m).isSuppressed d = true → (after (history ++ later) m).isSuppressed d = true := by
  refine ⟨isSuppressed_after_iff history m d, fun mark => hits_ofMark_iff mark d,
    fun other => isSuppressed_after_merge history m other d, ?_, ?_, ?_⟩
  · intro history' h
    exact isSuppressed_after_congr h d
  · intro block block' hblock hperm
    exact isSuppressed_after_congr (hblock.reached_perm hperm history m) d
  · intro later h
    rw [isSuppressed_after_iff] at h ⊢
    obtain ⟨e, he, hhits⟩ := h
    exact ⟨e, he.append later, hhits⟩

/-- A pattern for the files of one project, and what else is suppressed there. -/
def patternHistory : List (Operation String) :=
  [.addFile "project" "GMDTR01" "A*.cs", .merge "all" "project", .configure "project" { suppressed := ["GMDTR12"] }]

/-- A finding in a file that the pattern matches. -/
def patternFinding : Diagnostic :=
  .ofRule .requestName { file := "A1.cs", startLine := 7 } ["Order"] "naming-convention" []

/-- A mark on another line, and the rest of what the project suppresses. -/
def patternBlock : List (Operation String) :=
  [.addMarks "all" [{ ruleId := "*", file := "A1.cs", line := 8 }], .merge "all" "project"]

theorem suppressed_by_reached_entries_pattern :
    (after patternHistory "all").isSuppressed patternFinding = true
      ∧ (after (patternHistory ++ patternBlock) "all").isSuppressed patternFinding = true
      ∧ Independent patternBlock
      ∧ (after (patternHistory ++ patternBlock) "all").isSuppressed patternFinding
        = (after (patternHistory ++ patternBlock.reverse) "all").isSuppressed patternFinding
      ∧ (after patternHistory "all").isSuppressed patternFinding
        = (after (patternHistory ++ [.merge "all" "all"]) "all").isSuppressed patternFinding := by
  obtain ⟨hiff, -, -, hsame, hblock, hlater⟩ := suppressed_by_reached_entries patternHistory "all" patternFinding
  have hadd : Brings [] (.addFile "project" "GMDTR01" "A*.cs") (.file "A*.cs" "GMDTR01") := Or.inl (by decide)
  have hmerge : Brings [.addFile "project" "GMDTR01" "A*.cs"] (.merge "all" "project") (.file "A*.cs" "GMDTR01") :=
    Or.inr ⟨"project", rfl, hadd.reached []⟩
  have hcovers : covers "A*.cs" patternFinding.span.file = true := by decide +kernel
  have hsuppressed : (after patternHistory "all").isSuppressed patternFinding = true := by
    apply hiff.mpr
    exact ⟨.file "A*.cs" "GMDTR01", hmerge.reached _, Or.inl rfl, hcovers⟩
  have hindependent : Independent patternBlock := by
    intro op hop other hsource op' hop'
    simp only [patternBlock, List.mem_cons, List.not_mem_nil, or_false] at hop hop'
    rcases hop with rfl | rfl
    · cases hsource
    · obtain rfl := Option.some.inj hsource
      rcases hop' with rfl | rfl <;> decide
  refine ⟨hsuppressed, hlater patternBlock hsuppressed, hindependent,
    hblock patternBlock patternBlock.reverse hindependent patternBlock.reverse_perm.symm, ?_⟩
  apply hsame
  intro e
  rw [reached_concat_iff]
  simp [Brings, Operation.entries, Operation.source?]

end Suppressions

end Mediation
