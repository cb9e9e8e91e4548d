import Mediation.Diagnostic
import Mediation.Symbol.Program
import Mediation.Table
import Mediation.Text.Glob

/-!
# Suppressions

Which findings are not reported: those of a rule on one line, in the files that a pattern matches, or
everywhere. The identifier `*` stands for every rule.
-/

namespace Mediation

/-- Suppressed rules by line, by file pattern and for all files. -/
structure Suppressions where
  inline : Table (String × Int) (List String)
  byFile : Table String (List String)
  everywhere : List String

namespace Suppressions

def empty : Suppressions := ⟨.empty, .empty, []⟩

instance : Inhabited Suppressions := ⟨empty⟩

/-- Adds rules to those of a key. -/
def addRules {κ : Type} [DecidableEq κ] (t : Table κ (List String)) (key : κ) (ids : List String) :
    Table κ (List String) :=
  t.alter key fun found => ids.foldl (fun ids id => ids.insert id) (found.getD [])

def addInline (s : Suppressions) (file : String) (line : Int) (ruleId : String) : Suppressions :=
  { s with inline := addRules s.inline (file, line) [ruleId] }

/-- Suppresses a rule in the files that a pattern matches. -/
def addFile (s : Suppressions) (ruleId pattern : String) : Suppressions :=
  { s with byFile := addRules s.byFile pattern [ruleId] }

def addGlobal (s : Suppressions) (ruleId : String) : Suppressions :=
  { s with everywhere := s.everywhere.insert ruleId }

/-- Adds a suppression written in source. -/
def addMark (s : Suppressions) (mark : SuppressionMark) : Suppressions :=
  if mark.file = "" then s.addGlobal mark.ruleId
  else if mark.line = 0 then s.addFile mark.ruleId mark.file
  else s.addInline mark.file mark.line mark.ruleId

def addMarks (s : Suppressions) (marks : List SuppressionMark) : Suppressions := marks.foldl addMark s

/-- Adds every suppression of `other`. -/
def merge (s other : Suppressions) : Suppressions where
  inline := other.inline.entries.foldl (fun t e => addRules t e.1 e.2) s.inline
  byFile := other.byFile.entries.foldl (fun t e => addRules t e.1 e.2) s.byFile
  everywhere := other.everywhere.foldl (fun ids id => ids.insert id) s.everywhere

def names (ids : List String) (ruleId : String) : Bool := ruleId ∈ ids || "*" ∈ ids

/-- Whether a file pattern covers a file. -/
def covers (pattern file : String) : Bool := pattern = file || Glob.fits pattern file

def isSuppressed (s : Suppressions) (d : Diagnostic) : Bool :=
  names s.everywhere d.ruleId
    || names ((s.inline.get? (d.span.file, d.span.startLine)).getD []) d.ruleId
    || s.byFile.entries.any fun e => names e.2 d.ruleId && covers e.1 d.span.file

def filter (s : Suppressions) (ds : List Diagnostic) : List Diagnostic := ds.filter fun d => !s.isSuppressed d

end Suppressions

end Mediation
