import Mathlib.Data.List.Basic
import Mediation.Proofs.SuppressionEntries
import Mediation.Runner

/-!
# Suppressions of whole files

A suppression that is written in source for a whole file names the file by its path. It is kept beside the patterns
that users give, so its path is tried as a pattern too. A path without wildcards matches itself only, and then the
suppression holds in its own file and nowhere else. A path with a wildcard in it, such as `A[12].cs`, also reaches the
files that it matches as a pattern.
-/

namespace Mediation

/-! ### Paths as patterns -/

namespace Glob

/-- Whether a text holds a wildcard: a star, a question mark, or an opening bracket that something closes. -/
def hasWildcard : List Char → Bool
  | [] => false
  | c :: cs => c = '*' || c = '?' || (c = '[' && (closeSet? cs).isSome) || hasWildcard cs

theorem parse_eq_map_char {cs : List Char} (h : hasWildcard cs = false) : parse cs = cs.map .char := by
  induction cs with
  | nil => rw [parse, List.map_nil]
  | cons c cs ih =>
    simp only [hasWildcard, Bool.or_eq_false_iff, decide_eq_false_iff_not] at h
    obtain ⟨⟨⟨hstar, hany⟩, hset⟩, hrest⟩ := h
    rw [parse, if_neg hstar, if_neg hany, List.map_cons, ih hrest]
    split
    · rename_i hbracket
      -- Nothing closes the bracket, so it stands for itself.
      have hopen : closeSet? cs = none := by simpa [hbracket] using hset
      split
      · rename_i hclosed
        rw [hopen] at hclosed
        cases hclosed
      · rw [hbracket]
    · rfl

theorem accepts_map_char (cs ds : List Char) : accepts (cs.map .char) ds = true ↔ cs = ds := by
  induction cs generalizing ds with
  | nil => cases ds <;> simp [accepts]
  | cons c cs ih =>
    cases ds with
    | nil => simp [accepts]
    | cons d ds =>
      rw [List.map_cons, accepts, Bool.and_eq_true, ih, List.cons.injEq]
      · simp [Element.holds, eq_comm]
      · simp

/-- A pattern without wildcards matches its own text and no other. -/
theorem fits_iff_eq {pattern : String} (h : hasWildcard pattern.toList = false) (s : String) :
    fits pattern s = true ↔ pattern = s := by
  rw [fits_eq_accepts, parse_eq_map_char h, accepts_map_char, String.toList_inj]

end Glob

/-! ### Marks for whole files -/

namespace SuppressionMark

/-- A suppression for a whole file. -/
def IsWholeFile (mark : SuppressionMark) : Prop := mark.file ≠ "" ∧ mark.line = 0

/-- A suppression of the rule of a finding, or of all rules. -/
def Names (mark : SuppressionMark) (d : Diagnostic) : Prop := mark.ruleId = d.ruleId ∨ mark.ruleId = "*"

/-- A suppression whose path, read as a pattern with wildcards, matches the file of a finding. -/
def Captures (mark : SuppressionMark) (d : Diagnostic) : Prop :=
  Glob.hasWildcard mark.file.toList = true ∧ Glob.fits mark.file d.span.file = true

variable {mark : SuppressionMark}

theorem IsWholeFile.ofMark_eq (h : mark.IsWholeFile) :
    Suppressions.Entry.ofMark mark = .file mark.file mark.ruleId := by
  rw [Suppressions.Entry.ofMark, if_neg h.1, if_pos h.2]

theorem covers_iff (mark : SuppressionMark) (d : Diagnostic) :
    Suppressions.covers mark.file d.span.file = true ↔ mark.file = d.span.file ∨ mark.Captures d := by
  rw [Suppressions.covers, Bool.or_eq_true, decide_eq_true_eq, Captures]
  cases hwildcard : Glob.hasWildcard mark.file.toList with
  | true => simp
  | false => simp [Glob.fits_iff_eq hwildcard]

theorem IsWholeFile.hits_iff (h : mark.IsWholeFile) (d : Diagnostic) :
    (Suppressions.Entry.ofMark mark).Hits d ↔ mark.Names d ∧ (mark.file = d.span.file ∨ mark.Captures d) := by
  rw [h.ofMark_eq]
  exact and_congr_right fun _ => mark.covers_iff d

end SuppressionMark

namespace Program

/-- Whether the suppressions written in a program remove a finding. -/
def Removes (p : Program) (d : Diagnostic) : Prop :=
  (Suppressions.empty.addMarks p.suppressions).isSuppressed d = true

/-- Suppressions for whole files remove the findings of their rules in those files, and beyond them only what a path
with a wildcard matches as a pattern. Without such paths no finding in another file is removed. -/
theorem removes_by_wholeFile_marks (p : Program) (hmarks : ∀ mark ∈ p.suppressions, mark.IsWholeFile)
    (d : Diagnostic) :
    (p.Removes d
      ↔ (∃ mark ∈ p.suppressions, mark.Names d ∧ mark.file = d.span.file)
        ∨ ∃ mark ∈ p.suppressions, mark.Names d ∧ mark.Captures d)
    ∧ ((∀ mark ∈ p.suppressions, Glob.hasWildcard mark.file.toList = false) →
      (p.Removes d ↔ ∃ mark ∈ p.suppressions, mark.Names d ∧ mark.file = d.span.file)) := by
  have hremoves : p.Removes d
      ↔ (∃ mark ∈ p.suppressions, mark.Names d ∧ mark.file = d.span.file)
        ∨ ∃ mark ∈ p.suppressions, mark.Names d ∧ mark.Captures d := by
    rw [Removes, Suppressions.isSuppressed_marks_iff, ← exists_or]
    apply exists_congr
    intro mark
    rw [← and_or_left, ← and_or_left]
    apply and_congr_right
    intro hmark
    exact (hmarks mark hmark).hits_iff d
  refine ⟨hremoves, ?_⟩
  intro hplain
  rw [hremoves]
  apply or_iff_left
  intro hcaptures
  obtain ⟨mark, hmark, -, hwildcard, -⟩ := hcaptures
  rw [hplain mark hmark] at hwildcard
  cases hwildcard

/-- An order without the suffix of a request, and a suppression for a file with the given name. -/
def orderBeside (file : String) : Program where
  types := [
    { name := "IRequest", scope := "MediatR", assembly := "MediatR.Contracts", inSource := false },
    { name := "Order", interfaces := [{ name := "IRequest", scope := "MediatR", assembly := "MediatR.Contracts" }],
      span := { file := "A1.cs", startLine := 7 } }]
  suppressions := [{ ruleId := "GMDTR01", file }]

/-- What the suite says about the order. -/
def orderFinding : Diagnostic :=
  .ofRule .requestName { file := "A1.cs", startLine := 7 } ["Order"] "naming-convention" []

theorem isWholeFile_of_mem_orderBeside {file : String} (hfile : file ≠ "") :
    ∀ mark ∈ (orderBeside file).suppressions, mark.IsWholeFile := by
  intro mark hmark
  rw [List.mem_singleton.mp hmark]
  exact ⟨hfile, rfl⟩

theorem removes_by_wholeFile_marks_elsewhere :
    (∀ mark ∈ (orderBeside "A2.cs").suppressions, mark.IsWholeFile)
      ∧ (∀ mark ∈ (orderBeside "A2.cs").suppressions, Glob.hasWildcard mark.file.toList = false)
      ∧ ¬ (orderBeside "A2.cs").Removes orderFinding := by
  have hmarks := isWholeFile_of_mem_orderBeside (show "A2.cs" ≠ "" by decide)
  have hplain : ∀ mark ∈ (orderBeside "A2.cs").suppressions, Glob.hasWildcard mark.file.toList = false := by
    decide +kernel
  refine ⟨hmarks, hplain, ?_⟩
  rw [(removes_by_wholeFile_marks _ hmarks orderFinding).2 hplain]
  intro hexists
  obtain ⟨mark, hmark, -, hfile⟩ := hexists
  rw [List.mem_singleton.mp hmark] at hfile
  exact absurd hfile (by decide)

/-- A suppression for the file `A[12].cs` removes the finding in `A1.cs`. -/
theorem bracketed_file_hides_another :
    (∀ mark ∈ (orderBeside "A[12].cs").suppressions, mark.IsWholeFile)
      ∧ ¬ ((orderBeside "A[12].cs").Removes orderFinding
        ↔ ∃ mark ∈ (orderBeside "A[12].cs").suppressions, mark.Names orderFinding
          ∧ mark.file = orderFinding.span.file)
      ∧ ((Runner.run {} (orderBeside "A2.cs") none).emitted.map fun d => (d.ruleId, d.span.file))
        = [("GMDTR01", "A1.cs")]
      ∧ ((Runner.run {} (orderBeside "A[12].cs") none).emitted.map fun d => (d.ruleId, d.span.file)) = [] := by
  refine ⟨isWholeFile_of_mem_orderBeside (by decide), ?_, by decide +kernel, by decide +kernel⟩
  intro hiff
  have hremoves : (orderBeside "A[12].cs").Removes orderFinding := by
    rw [Removes]
    decide +kernel
  obtain ⟨mark, hmark, -, hfile⟩ := hiff.mp hremoves
  rw [List.mem_singleton.mp hmark] at hfile
  exact absurd hfile (by decide)

end Program

end Mediation
