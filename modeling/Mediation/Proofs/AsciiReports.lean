import Mathlib.Data.List.Basic
import Mediation.Proofs.JsonLines
import Mediation.Proofs.MergeLaws
import Mediation.Proofs.SuiteRules
import Mediation.Text.Encoding

/-!
# Reports in ASCII

A report in JSON has only ASCII characters, whatever the texts of the programs. So has a summary of the suite, which
shows the names of checkers and counts what they found. Only the lines in the manner of compilers show the texts of the
programs as they are.
-/

namespace Mediation

/-! ### Texts -/

namespace Text

def IsAscii (text : String) : Prop := ∀ c ∈ text.toList, c.toNat < 0x80

/-- An encoding that has all ASCII characters. -/
def Encoding.HasAscii (e : Encoding) : Prop := ∀ c : Char, c.toNat < 0x80 → (e.octets? c).isSome = true

instance (text : String) : Decidable (IsAscii text) := List.decidableBAll (fun c : Char => c.toNat < 0x80) text.toList

theorem isAscii_ofList (cs : List Char) : IsAscii (String.ofList cs) ↔ ∀ c ∈ cs, c.toNat < 0x80 := by
  rw [IsAscii, String.toList_ofList]

theorem Encoding.hasAscii_ascii : ascii.HasAscii := by
  intro c hc
  simp [ascii, hc]

theorem isAscii_append (first second : String) : IsAscii (first ++ second) ↔ IsAscii first ∧ IsAscii second := by
  rw [IsAscii, String.toList_append, List.forall_mem_append]
  rfl

theorem isAscii_join {separator : String} (hseparator : IsAscii separator) {parts : List String}
    (hparts : ∀ part ∈ parts, IsAscii part) : IsAscii (join separator parts) := by
  induction parts with
  | nil => exact (by decide : IsAscii "")
  | cons part parts ih =>
    rw [List.forall_mem_cons] at hparts
    cases parts with
    | nil => exact hparts.1
    | cons next rest =>
      rw [join, isAscii_append, isAscii_append]
      exact ⟨⟨hparts.1, hseparator⟩, ih hparts.2⟩

theorem mem_join {separator part : String} {parts : List String} (hpart : part ∈ parts) {c : Char}
    (hc : c ∈ part.toList) : c ∈ (join separator parts).toList := by
  induction parts with
  | nil => cases hpart
  | cons first parts ih =>
    cases parts with
    | nil => rwa [List.mem_singleton.mp hpart] at hc
    | cons next rest =>
      rw [join, String.toList_append, String.toList_append, List.mem_append, List.mem_append]
      rcases List.mem_cons.mp hpart with rfl | hpart
      · exact Or.inl (Or.inl hc)
      · exact Or.inr (ih hpart)

theorem toNat_lt_of_mem_toDigits {n : Nat} {c : Char} (hc : c ∈ Nat.toDigits 10 n) : c.toNat < 0x80 := by
  have hdigit := Char.isDigit_iff_toNat.mp (Json.isDigit_of_mem_toDigits c hc)
  exact Nat.lt_of_le_of_lt hdigit.2 (by decide)

theorem isAscii_toString (n : Nat) : IsAscii (toString n) := by
  intro c hc
  rw [Nat.toString_eq_repr, Nat.toList_repr] at hc
  exact toNat_lt_of_mem_toDigits hc

end Text

theorem Binary64.isAscii_fixed (places : Nat) (value : Binary64) : Text.IsAscii (value.fixed places) := by
  cases value with
  | nan => exact (by decide : Text.IsAscii "nan")
  | infinity negative =>
    cases negative with
    | false => exact (by decide : Text.IsAscii "inf")
    | true => exact (by decide : Text.IsAscii "-inf")
  | finite negative mantissa exponent =>
    have hpadded : ∀ count units, ∀ c ∈ List.replicate count '0' ++ Nat.toDigits 10 units, c.toNat < 0x80 := by
      intro count units
      rw [List.forall_mem_append]
      refine ⟨fun c hc => ?_, fun c hc => Text.toNat_lt_of_mem_toDigits hc⟩
      rw [List.eq_of_mem_replicate hc]
      decide
    have hsign : ∀ c ∈ (if negative then ['-'] else []), c.toNat < 0x80 := by cases negative <;> simp
    rw [fixed, Text.isAscii_ofList, List.forall_mem_append, List.forall_mem_append, List.forall_mem_cons]
    exact ⟨⟨hsign, fun c hc => hpadded _ _ c (List.mem_of_mem_take hc)⟩, by decide,
      fun c hc => hpadded _ _ c (List.mem_of_mem_drop hc)⟩

/-! ### Reports -/

namespace Report

theorem isAscii_jsonLines (r : Report) : Text.IsAscii r.jsonLines := by
  refine Text.isAscii_join (by decide) fun line hline c hc => ?_
  obtain ⟨d, -, rfl⟩ := List.mem_map.mp hline
  exact Nat.lt_of_le_of_lt (d.printableAscii_jsonLine c hc).2 (by decide)

theorem isAscii_countLine (r : Report) {time : String → String} (htime : ∀ checker, Text.IsAscii (time checker))
    {checker : String} (hchecker : Text.IsAscii checker) : Text.IsAscii (r.countLine time checker) := by
  simp only [countLine, Text.isAscii_append]
  exact ⟨⟨⟨⟨⟨⟨by decide +kernel, hchecker⟩, by decide +kernel⟩, Text.isAscii_toString _⟩,
    by decide +kernel⟩, htime checker⟩, by decide +kernel⟩

/-- A summary shows no text but the names of checkers. -/
theorem isAscii_summary {r : Report} (h : Timed r.stats) (hnames : ∀ checker ∈ r.checkerNames, Text.IsAscii checker)
    {text : String} (htext : r.summary = .ok text) : Text.IsAscii text := by
  obtain ⟨elapsed, hsummary⟩ := exists_summary_eq h
  obtain rfl := Except.ok.inj (hsummary.symm.trans htext)
  apply Text.isAscii_join (by decide)
  rw [List.forall_mem_cons]
  constructor
  · simp only [Text.isAscii_append]
    exact ⟨⟨⟨⟨⟨⟨by decide +kernel, Text.isAscii_toString _⟩, by decide +kernel⟩,
      Text.isAscii_toString _⟩, by decide +kernel⟩, Text.isAscii_toString _⟩, by decide +kernel⟩
  · intro line hline
    obtain ⟨checker, hchecker, rfl⟩ := List.mem_map.mp hline
    have htime : ∀ checker, Text.IsAscii ((elapsed checker).fixed 1) := fun checker =>
      Binary64.isAscii_fixed 1 (elapsed checker)
    exact r.isAscii_countLine htime (hnames checker hchecker)

/-- The lines in the manner of compilers show every message as it is. -/
theorem mem_compilerLines_of_message {r : Report} {d : Diagnostic} (hd : d ∈ r.emitted) {c : Char}
    (hc : c ∈ d.message.toList) : c ∈ r.compilerLines.toList := by
  apply Text.mem_join (List.mem_map_of_mem ((r.mem_diagnostics d).mpr hd))
  simp only [Diagnostic.compilerLine, String.toList_append, List.mem_append]
  exact Or.inl (Or.inl (Or.inl (Or.inr hc)))

theorem mem_checkerNames_merge {r other : Report} {name : String} (h : name ∈ (r.merge other).checkerNames) :
    name ∈ r.checkerNames ∨ name ∈ other.checkerNames := by
  rw [merge] at h
  dsimp only at h
  split at h
  · exact (mem_addNames name _ _).mp h
  · exact Or.inl h

end Report

namespace Runner

/-- A report on several programs names selected checkers only. -/
theorem exists_select_of_mem_checkerNames (r : Runner) {programs : List Program} {names : Option (List String)}
    {name : String} (h : name ∈ (r.runMany programs names).checkerNames) : ∃ c ∈ r.select names, c.name = name := by
  rw [runMany, runManyTimed_eq_mergeAll] at h
  refine Report.mergeAll_induction
    (P := fun report => ∀ name ∈ report.checkerNames, ∃ c ∈ r.select names, c.name = name) ?_ ?_ ?_ name h
  · simp
  · intro a b ha hb name hname
    exact (Report.mem_checkerNames_merge hname).elim (ha name) (hb name)
  · intro report hreport name hname
    obtain ⟨timed, -, rfl⟩ := List.mem_map.mp hreport
    rw [checkerNames_runTimed] at hname
    exact List.mem_map.mp hname

end Runner

theorem Registry.isAscii_name {c : Checker} (hc : c ∈ suite) : Text.IsAscii c.name := by
  revert c
  decide +kernel

end Mediation
