import Mediation.Setting.Line
import Mediation.Table
import Mediation.Text.Affix
import Mediation.Text.Lines
import Mediation.Text.Quoted

/-!
# Settings files

Keys and values in sections. Sections of one name are one section, the last value of a key counts, and the
items of the default section stand in every section that does not override them. A line that is indented more
than the line of its key continues the value.
-/

namespace Mediation.Setting

/-- The items of a section: the lines of the value of each key. -/
abbrev Items := Table String (List String)

/-- The content of a settings file. -/
structure Document where
  defaults : Items
  sections : Table String Items

/-- Where items are entered. -/
inductive Place where
  | defaults
  | section (name : String)
  deriving DecidableEq

/-- The name of the default section. -/
def defaultSection : String := "DEFAULT"

/-- The name of the section before the first header. -/
def preamble : String := "__preamble__"

namespace Document

def empty : Document := ⟨.empty, Table.empty.insert preamble .empty⟩

def modify (d : Document) (place : Place) (f : Items → Items) : Document :=
  match place with
  | .defaults => { d with defaults := f d.defaults }
  | .section name => { d with sections := d.sections.alter name fun items => f (items.getD .empty) }

/-- The value that consists of the given lines. -/
def joinValue (lines : List String) : String :=
  String.ofList (Text.stripRight (Text.join "\n" lines).toList)

/-- The keys and values of a section, those of the default section first. -/
def sectionItems (d : Document) (items : Items) : List (String × String) :=
  (d.defaults.override items).entries.map fun e => (e.1, joinValue e.2)

/-- The keys and values of all sections, in order. -/
def items (d : Document) : List (String × String) := d.sections.values.flatMap d.sectionItems

end Document

/-! ### Reading -/

/-- A line that says nothing, or a value without a key. -/
structure BadLine where
  number : Nat
  line : String
  deriving DecidableEq

/-- How far a file has been read. -/
structure Progress where
  document : Document := .empty
  place : Place := .section preamble
  /-- The key whose value the next line may continue. -/
  open? : Option String := none
  /-- The indentation of the last line that did not continue a value. -/
  indent : Nat := 0
  badLines : List BadLine := []

namespace Progress

/-- Adds a line to the value of a key. -/
def extend (p : Progress) (key line : String) : Progress :=
  { p with document := p.document.modify p.place fun items => items.alter key fun ls => ls.getD [] ++ [line] }

def enter (p : Progress) (name : String) : Progress :=
  if name = defaultSection then { p with place := .defaults, open? := none }
  else
    { p with
      place := .section name, open? := none
      document := p.document.modify (.section name) id }

/-- Enters an item. The value of an empty key cannot be continued. -/
def assign (p : Progress) (key value : String) : Progress :=
  { p with
    document := p.document.modify p.place fun items => items.insert key [value]
    open? := if key = "" then none else some key }

/-- Notes a line that cannot be read. -/
def refuse (p : Progress) (number : Nat) (line : List Char) : Progress :=
  { p with badLines := p.badLines ++ [⟨number, String.ofList line⟩] }

def take (p : Progress) (number : Nat) (line : List Char) : Statement → Progress
  | .header name => p.enter name
  | .item key value => (if key = "" then p.refuse number line else p).assign key value
  | .unreadable => p.refuse number line

/-- Takes the text of a line: as the continuation of a value if it is indented more, else as a statement. -/
def takeText (p : Progress) (number : Nat) (line content : List Char) : Progress :=
  let statement := { p with indent := indentation line }.take number line (.ofContent content)
  match p.open? with
  | some key => if p.indent < indentation line then p.extend key (String.ofList content) else statement
  | none => statement

/-- Takes a line. A blank line may stand inside a value, and a comment is no part of one. -/
def step (p : Progress) (number : Nat) (line : List Char) : Progress :=
  match Content.ofLine line with
  | .comment => p
  | .blank =>
    match p.open? with
    | some key => p.extend key ""
    | none => p
  | .text content => p.takeText number line content

/-- Takes lines that are numbered from `number`. -/
def run (p : Progress) (number : Nat) : List (List Char) → Progress
  | [] => p
  | line :: rest => (p.step number line).run (number + 1) rest

end Progress

/-- Reads a settings file, or returns the lines that cannot be read. Line one is the header of the section
before the first header, and the text begins on line two. -/
def Document.read (text : String) : Except (List BadLine) Document :=
  let p := Progress.run {} 2 (Text.lines text.toList)
  if p.badLines.isEmpty then .ok p.document else .error p.badLines

/-- The wording of what is wrong with a settings file. -/
def badLinesMessage (source : String) (badLines : List BadLine) : String :=
  "Source contains parsing errors: " ++ Text.quoted source
    ++ String.join (badLines.map fun bad =>
      "\n\t[line " ++ Text.padLeft (toString bad.number) 2 ++ "]: " ++ Text.quoted bad.line)

end Mediation.Setting
