import Mediation.Text.Affix

/-!
# Paths

Names of files, written in one way: repeated separators and steps that lead nowhere are left out. Steps to
the parent stay, since what they mean depends on the files.
-/

namespace Mediation

/-- A path: its root, which is empty for a relative path, and the names on the way. -/
structure Path where
  root : String
  parts : List String
  deriving DecidableEq

namespace Path

/-- The root in a written path. Exactly two separators are a root of their own. -/
def rootOf (cs : List Char) : String :=
  match (cs.takeWhile (· = '/')).length with
  | 0 => ""
  | 2 => "//"
  | _ => "/"

/-- The path that is written as `s`. -/
def ofString (s : String) : Path where
  root := rootOf s.toList
  parts := ((Text.splitAt (· = '/') s.toList).map String.ofList).filter fun part => part ≠ "" && part ≠ "."

/-- How a path is written; a path that leads nowhere is a point. -/
def written (p : Path) : String :=
  let s := p.root ++ Text.join "/" p.parts
  if s = "" then "." else s

/-- Whether a NUL character stands in a path. -/
def hasNul (p : Path) : Bool := p.written.toList.any (· = '\x00')

def name (p : Path) : String := p.parts.getLast?.getD ""

/-- A name without the last point and what follows it. A point at either end of the name does not count. -/
def stemOf (name : String) : String :=
  let extension := name.toList.reverse.takeWhile (· ≠ '.')
  let length := name.toList.length - (extension.length + 1)
  if extension ≠ [] && 0 < length then String.ofList (name.toList.take length) else name

/-- The last name of a path without its extension. -/
def stem (p : Path) : String := stemOf p.name

end Path

end Mediation
