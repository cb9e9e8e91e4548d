import Mediation.File.Path

/-!
# Trees of files

The files below a folder, as data, and what comes of reading a path there. A reader of files is any function
from paths to contents, so the same analysis runs on a tree and on a disk.
-/

namespace Mediation

/-- Why a file cannot be read. A path with a NUL character is no path for the system, which is not even asked. -/
inductive ReadFault where
  | nulInPath
  | missing
  | isFolder
  | notFolder
  | nameTooLong
  | other (description : String)
  deriving DecidableEq

def ReadFault.message : ReadFault → String
  | .nulInPath => "embedded null byte"
  | .missing => "No such file or directory"
  | .isFolder => "Is a directory"
  | .notFolder => "Not a directory"
  | .nameTooLong => "File name too long"
  | .other description => description

/-- A way to read files. -/
abbrev FileReader := Path → Except ReadFault (List UInt8)

/-- What stands at a place in a tree. -/
inductive FileNode where
  | file (content : List UInt8)
  | folder
  deriving DecidableEq

/-- Files and folders by the names that lead to them. Folders on the way to an entry need no entry. -/
structure FileTree where
  entries : List (List String × FileNode) := []

namespace FileTree

def node? (t : FileTree) (place : List String) : Option FileNode :=
  match t.entries.find? fun e => e.1 = place with
  | some (_, node) => some node
  | none => if place = [] || t.entries.any (fun e => place.isPrefixOf e.1) then some .folder else none

/-- Where a walk stands: at a place in the tree, or in a folder that has the tree below it. -/
inductive Position where
  | at (place : List String)
  | above

/-- The greatest number of octets in a name. -/
def maxName : Nat := 255

/-- One step of a walk. The folders above the tree hold nothing else. -/
def step (t : FileTree) (part : String) : Position → Except ReadFault Position
  | .above =>
    if part = ".." then .ok .above
    else .error (if maxName < part.utf8ByteSize then .nameTooLong else .missing)
  | .at place =>
    match t.node? place with
    | none => .error .missing
    | some (.file _) => .error .notFolder
    | some .folder =>
      if maxName < part.utf8ByteSize then .error .nameTooLong
      else if part ≠ ".." then .ok (.at (place ++ [part]))
      else if place = [] then .ok .above
      else .ok (.at place.dropLast)

/-- The number of octets from which on a path is too long as a whole. -/
def pathLimit : Nat := 4096

/-- Where the walk along a path begins. -/
def start (path : Path) : Position := if path.root = "" then .at [] else .above

/-- The content of what a path leads to. -/
def follow (t : FileTree) : FileReader := fun path => do
  match ← path.parts.foldlM (fun position part => t.step part position) (start path) with
  | .above => .error .isFolder
  | .at place =>
    match t.node? place with
    | some (.file content) => .ok content
    | some .folder => .error .isFolder
    | none => .error .missing

/-- Reads what a path leads to. The text of the path is judged before the walk begins. -/
def read (t : FileTree) : FileReader := fun path =>
  if path.hasNul then .error .nulInPath
  else if pathLimit ≤ path.written.utf8ByteSize then .error .nameTooLong
  else t.follow path

end FileTree

end Mediation
