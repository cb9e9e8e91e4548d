import Mediation.Proofs.DiagnosticOrder
import Mediation.Proofs.JsonRoundTrip
import Mediation.Report

/-!
# One line of JSON for each finding

A report in JSON can be taken apart at the ends of its lines. Every line is the object of one finding, whatever texts
and numbers the finding has: no character outside printable ASCII is written, so no text breaks a line, and reading a
line gives back the fields it was written from.
-/

namespace Mediation

namespace Text

variable {isBreak : Char → Bool}

theorem splitAt_append_break {piece : List Char} (hpiece : ∀ c ∈ piece, isBreak c = false) {c : Char}
    (hc : isBreak c = true) (rest : List Char) :
    splitAt isBreak (piece ++ c :: rest) = piece :: splitAt isBreak rest := by
  induction piece with
  | nil => rw [List.nil_append, splitAt, if_pos hc]
  | cons d piece ih =>
    rw [List.forall_mem_cons] at hpiece
    rw [List.cons_append, splitAt, hpiece.1, ih hpiece.2]
    rfl

theorem splitAt_eq_singleton {piece : List Char} (hpiece : ∀ c ∈ piece, isBreak c = false) :
    splitAt isBreak piece = [piece] := by
  induction piece with
  | nil => rfl
  | cons d piece ih =>
    rw [List.forall_mem_cons] at hpiece
    rw [splitAt, hpiece.1, ih hpiece.2]
    rfl

/-- Parts without breaks come back from a join with a break between them. -/
theorem splitAt_join (isBreak : Char → Bool) {c : Char} (hc : isBreak c = true) {parts : List String} (hne : parts ≠ [])
    (hparts : ∀ part ∈ parts, ∀ d ∈ part.toList, isBreak d = false) :
    splitAt isBreak (join (String.singleton c) parts).toList = parts.map String.toList := by
  induction parts with
  | nil => exact absurd rfl hne
  | cons part parts ih =>
    rw [List.forall_mem_cons] at hparts
    cases parts with
    | nil => exact splitAt_eq_singleton hparts.1
    | cons next rest =>
      have hrest := ih (by simp) hparts.2
      have hjoin : (join (String.singleton c) (part :: next :: rest)).toList
          = part.toList ++ c :: (join (String.singleton c) (next :: rest)).toList := by
        simp [join]
      rw [hjoin, splitAt_append_break hparts.1 hc, hrest]
      rfl

end Text

namespace Diagnostic

/-- The fields of a finding have distinct keys and hold texts and integers only. -/
theorem plain_fields (d : Diagnostic) : (Json.obj d.fields).Plain := by
  rw [fields]
  split_ifs with hlink
  · refine .obj (by simp) ?_
    simp [Json.Plain.str, Json.Plain.int]
  · refine .obj (by simp) ?_
    simp [Json.Plain.str, Json.Plain.int]

theorem toList_jsonLine (d : Diagnostic) : d.jsonLine.toList = (Json.obj d.fields).writeChars := by
  rw [jsonLine, Json.write, String.toList_ofList]

theorem printableAscii_jsonLine (d : Diagnostic) : ∀ c ∈ d.jsonLine.toList, Json.PrintableAscii c := by
  rw [toList_jsonLine]
  exact Json.printableAscii_writeChars d.plain_fields

theorem read_jsonLine (d : Diagnostic) : Json.read d.jsonLine.toList = .ok (.obj d.fields) := by
  rw [toList_jsonLine]
  exact Json.read_writeChars d.plain_fields

theorem helpUri_mem_keys_fields_iff (d : Diagnostic) : "helpUri" ∈ d.fields.map Prod.fst ↔ d.helpUri ≠ "" := by
  rw [fields]
  split_ifs with hlink <;> simp [hlink]

end Diagnostic

namespace Report

theorem diagnostics_ne_nil {r : Report} (h : r.emitted ≠ []) : r.diagnostics ≠ [] := by
  intro hnil
  have hperm := Diagnostic.sort_perm r.emitted
  rw [← diagnostics, hnil] at hperm
  exact h hperm.nil_eq.symm

/-- The lines of a report are the lines of its findings. -/
theorem splitAt_jsonLines {r : Report} (h : r.emitted ≠ []) :
    Text.splitAt (· = '\n') r.jsonLines.toList = r.diagnostics.map fun d => d.jsonLine.toList := by
  have hlines : ∀ part ∈ r.diagnostics.map Diagnostic.jsonLine, ∀ c ∈ part.toList, decide (c = '\n') = false := by
    intro part hpart c hc
    obtain ⟨d, -, rfl⟩ := List.mem_map.mp hpart
    have hprintable := d.printableAscii_jsonLine c hc
    rw [decide_eq_false_iff_not]
    rintro rfl
    exact absurd hprintable (by decide)
  have hsplit := Text.splitAt_join (fun c => decide (c = '\n')) (decide_eq_true (Eq.refl '\n'))
    (by simpa using diagnostics_ne_nil h) hlines
  rw [List.map_map] at hsplit
  exact hsplit

/-- Cutting the output at its line ends gives one piece for each finding in the order of spans. Each piece has only
printable ASCII characters, and reading it gives the fields of its finding, with a link exactly if there is one. -/
theorem jsonLines_pieces (r : Report) (h : r.emitted ≠ []) :
    r.diagnostics.Perm r.emitted
      ∧ (r.diagnostics.Pairwise fun a b => a.sortKey ≤ b.sortKey)
      ∧ List.Forall₂ (fun piece d => (∀ c ∈ piece, 0x20 ≤ c.toNat ∧ c.toNat ≤ 0x7e)
          ∧ Json.read piece = .ok (.obj d.fields)
          ∧ ("helpUri" ∈ d.fields.map Prod.fst ↔ d.helpUri ≠ ""))
        (Text.splitAt (· = '\n') r.jsonLines.toList) r.diagnostics := by
  refine ⟨Diagnostic.sort_perm _, Diagnostic.pairwise_sort _, ?_⟩
  rw [splitAt_jsonLines h, List.forall₂_map_left_iff, List.forall₂_same]
  intro d _
  exact ⟨d.printableAscii_jsonLine, d.read_jsonLine, d.helpUri_mem_keys_fields_iff⟩

/-- Two findings whose texts have line ends, quotes and characters beyond 16 bits. -/
def awkwardReport : Report where
  emitted := [
    { ruleId := "GMDTR01", message := "line\nend \"\\\" \x7f 😀", severity := .error, helpUri := "h\r",
      span := { file := "ß.cs", startLine := -3 } },
    { ruleId := "", message := "", severity := .hidden }]

theorem jsonLines_pieces_awkward :
    awkwardReport.emitted ≠ []
      ∧ awkwardReport.emitted.map Diagnostic.jsonLine
        = ["\x7b\"ruleId\": \"GMDTR01\", \"message\": \"line\\nend \\\"\\\\\\\" \\u007f \\ud83d\\ude00\", "
            ++ "\"severity\": \"error\", \"category\": \"Design\", \"file\": \"\\u00df.cs\", \"startLine\": -3, "
            ++ "\"startColumn\": 0, \"endLine\": 0, \"endColumn\": 0, \"helpUri\": \"h\\r\"\x7d",
          "\x7b\"ruleId\": \"\", \"message\": \"\", \"severity\": \"hidden\", \"category\": \"Design\", "
            ++ "\"file\": \"\", \"startLine\": 0, \"startColumn\": 0, \"endLine\": 0, \"endColumn\": 0\x7d"]
      ∧ awkwardReport.diagnostics.Perm awkwardReport.emitted
      ∧ (awkwardReport.diagnostics.Pairwise fun a b => a.sortKey ≤ b.sortKey)
      ∧ List.Forall₂ (fun piece d => (∀ c ∈ piece, 0x20 ≤ c.toNat ∧ c.toNat ≤ 0x7e)
          ∧ Json.read piece = .ok (.obj d.fields)
          ∧ ("helpUri" ∈ d.fields.map Prod.fst ↔ d.helpUri ≠ ""))
        (Text.splitAt (· = '\n') awkwardReport.jsonLines.toList) awkwardReport.diagnostics := by
  have hne : awkwardReport.emitted ≠ [] := List.cons_ne_nil _ _
  exact ⟨hne, by decide +kernel, jsonLines_pieces awkwardReport hne⟩

end Report

end Mediation
