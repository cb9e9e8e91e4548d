import Mediation.Text.CaseTable

/-!
# Upper and lower case

Case mapping of whole texts. A character may become several, and a capital sigma becomes the final sigma
at the end of a word.
-/

namespace Mediation.Text

private def shifted (code : Nat) (shift : Int) : Char := Char.ofNat (code + shift).toNat

private def mapCase (expansions : List (Nat × List Nat)) (runs : List CaseRun) (c : Char) : List Char :=
  match expansions.lookup c.toNat with
  | some codes => codes.map Char.ofNat
  | none =>
    match runs.find? (·.covers c.toNat) with
    | some run => [shifted c.toNat run.shift]
    | none => [c]

/-- The lower case of a character on its own. -/
def lowerChar (c : Char) : List Char := mapCase lowerExpansions lowerRuns c

/-- The upper case of a character. -/
def upperChar (c : Char) : List Char := mapCase upperExpansions upperRuns c

private theorem mapCase_cases (expansions : List (Nat × List Nat)) (runs : List CaseRun) (c : Char) :
    (∃ e ∈ expansions, mapCase expansions runs c = e.2.map Char.ofNat)
      ∨ (∃ run ∈ runs, run.covers c.toNat = true
        ∧ mapCase expansions runs c = [Char.ofNat (c.toNat + run.shift).toNat])
      ∨ (∀ run ∈ runs, run.covers c.toNat = false) ∧ mapCase expansions runs c = [c] := by
  unfold mapCase
  split
  · rename_i codes hcodes
    obtain ⟨before, later, rfl, -⟩ := List.lookup_eq_some_iff.mp hcodes
    exact .inl ⟨(c.toNat, codes), by simp, rfl⟩
  · split
    · rename_i run hrun
      have hcovers := List.find?_some hrun
      exact .inr (.inl ⟨run, List.mem_of_find?_eq_some hrun, hcovers, rfl⟩)
    · rename_i hnone
      exact .inr (.inr ⟨by simpa using hnone, rfl⟩)

/-- The lower case of a character is an expansion, the character with a shift, or the character itself. -/
theorem lowerChar_cases (c : Char) :
    (∃ e ∈ lowerExpansions, lowerChar c = e.2.map Char.ofNat)
      ∨ (∃ run ∈ lowerRuns, run.covers c.toNat = true ∧ lowerChar c = [Char.ofNat (c.toNat + run.shift).toNat])
      ∨ (∀ run ∈ lowerRuns, run.covers c.toNat = false) ∧ lowerChar c = [c] :=
  mapCase_cases lowerExpansions lowerRuns c

theorem upperChar_cases (c : Char) :
    (∃ e ∈ upperExpansions, upperChar c = e.2.map Char.ofNat)
      ∨ (∃ run ∈ upperRuns, run.covers c.toNat = true ∧ upperChar c = [Char.ofNat (c.toNat + run.shift).toNat])
      ∨ (∀ run ∈ upperRuns, run.covers c.toNat = false) ∧ upperChar c = [c] :=
  mapCase_cases upperExpansions upperRuns c

/-- Whether the first character of `cs` that counts is a letter with case. -/
def meetsCased (cs : List Char) : Bool :=
  match cs.dropWhile caseIgnorableRanges.contains with
  | [] => false
  | c :: _ => casedRanges.contains c

/-- The capital sigma, the only letter whose lower case depends on its neighbours. -/
def capitalSigma : Char := '\u03a3'

/-- The lower case of a sigma: the final form when a letter stands before it and none after it. -/
def lowerSigma (before after : List Char) : Char :=
  if meetsCased before && !meetsCased after then '\u03c2' else '\u03c3'

/-- The lower case of `cs`, where `before` holds the characters to its left, the nearest first. -/
def lowerAfter (before : List Char) : List Char → List Char
  | [] => []
  | c :: cs =>
    (if c = capitalSigma then [lowerSigma before cs] else lowerChar c) ++ lowerAfter (c :: before) cs

def lower (s : String) : String := String.ofList (lowerAfter [] s.toList)

def upper (s : String) : String := String.ofList (s.toList.flatMap upperChar)

end Mediation.Text
