import Mathlib.Data.List.DropRight
import Mediation.Setting.Document

/-!
# What stands where in a settings file

In a file of plain lines every line says something by itself: no value goes on over several lines. Reading such a file
line by line enters each item in the section above it. In the end the document has the sections in the order of their
first headers, and under each key of a section the value of the last line with this key there, wherever in the file the
parts of the section are. Blank lines may have been taken into a value, but they do not show in it.
-/

namespace Mediation

namespace Text

/-! ### Blanks at the end -/

theorem stripRight_strip (cs : List Char) : stripRight (strip cs) = strip cs := by
  rw [strip, stripRight, stripRight, List.reverse_reverse, List.dropWhile_idempotent]

theorem stripRight_append_blank (cs : List Char) {c : Char} (hc : isBlank c = true) :
    stripRight (cs ++ [c]) = stripRight cs := by
  simp [stripRight, hc]

theorem join_concat (separator first last : String) (parts : List String) :
    join separator (first :: parts ++ [last]) = join separator (first :: parts) ++ separator ++ last := by
  induction parts generalizing first with
  | nil => rfl
  | cons next parts ih =>
    have hrest := ih next
    rw [List.cons_append] at hrest ⊢
    rw [List.cons_append, join, hrest, join]
    simp only [String.append_assoc]

end Text

namespace Setting

theorem Document.joinValue_singleton {value : String} (h : Text.stripRight value.toList = value.toList) :
    joinValue [value] = value := by
  rw [joinValue, Text.join, h, String.ofList_toList]

theorem Document.joinValue_concat_empty (line : String) (lines : List String) :
    joinValue (line :: lines ++ [""]) = joinValue (line :: lines) := by
  have hbreak : Text.isBlank '\n' = true := by decide
  rw [joinValue, Text.join_concat, String.append_empty, String.toList_append]
  change String.ofList (Text.stripRight (_ ++ ['\n'])) = _
  rw [Text.stripRight_append_blank _ hbreak, joinValue]

/-! ### Plain lines -/

/-- What a line says by itself. Blank lines and comments say nothing. -/
def Statement.ofLine? (line : List Char) : Option Statement :=
  match Content.ofLine line with
  | .text content => some (.ofContent content)
  | .blank => none
  | .comment => none

/-- Whether a statement is the header of a section, or an item with a key. -/
def Statement.isReadable : Statement → Bool
  | .header _ => true
  | .item key _ => key ≠ ""
  | .unreadable => false

/-- A blank line, a comment, or a readable statement without indentation. -/
def isPlainLine (line : List Char) : Bool :=
  match Statement.ofLine? line with
  | some statement => statement.isReadable && indentation line == 0
  | none => true

theorem Statement.ofContent_eq_item {content : List Char} {key value : String}
    (h : Statement.ofContent content = .item key value) :
    (∃ s, key = Text.lower s) ∧ Text.stripRight value.toList = value.toList := by
  rw [ofContent] at h
  split at h
  · cases h
  · split at h
    · rename_i key' value' hitem
      obtain ⟨rfl, rfl⟩ := Statement.item.inj h
      rw [keyValue?] at hitem
      split at hitem
      · cases hitem
      · obtain ⟨rfl, rfl⟩ := Prod.mk.inj (Option.some.inj hitem)
        refine ⟨⟨_, rfl⟩, ?_⟩
        rw [String.toList_ofList, Text.stripRight_strip]
    · cases h

/-! ### The outline of a file -/

/-- An item as it stands in a file. -/
structure Assignment where
  place : Place
  key : String
  value : String
  deriving DecidableEq

/-- The value of an item with the given key. -/
def Assignment.valueOf? (key : String) (a : Assignment) : Option String := if a.key = key then some a.value else none

/-- What stands where: the section that the next item belongs to, the sections in the order of their first headers,
and the items in the order of their lines. -/
structure Outline where
  place : Place := .section preamble
  sections : List String := [preamble]
  assignments : List Assignment := []

namespace Outline

def take (o : Outline) : Statement → Outline
  | .header name =>
    if name = defaultSection then { o with place := .defaults }
    else
      { o with
        place := .section name
        sections := if name ∈ o.sections then o.sections else o.sections ++ [name] }
  | .item key value => { o with assignments := o.assignments ++ [⟨o.place, key, value⟩] }
  | .unreadable => o

/-- The statements of a text, in the order of its lines. -/
def statements (text : String) : List Statement := (Text.lines text.toList).filterMap Statement.ofLine?

def ofStatements (statements : List Statement) : Outline := statements.foldl take {}

def ofText (text : String) : Outline := ofStatements (statements text)

/-- The items of a section, in the order of their lines. -/
def itemsIn (o : Outline) (place : Place) : List Assignment := o.assignments.filter fun a => a.place = place

/-- The value of the last line with a key in a section. -/
def value? (o : Outline) (place : Place) (key : String) : Option String :=
  ((o.itemsIn place).filterMap (Assignment.valueOf? key)).getLast?

theorem value?_item (o : Outline) (place : Place) (key key' value : String) :
    (o.take (.item key' value)).value? place key
      = if place = o.place ∧ key = key' then some value else o.value? place key := by
  rw [value?, itemsIn, take, List.filter_append, List.filterMap_append, List.getLast?_append]
  by_cases hplace : place = o.place
  · by_cases hkey : key = key'
    · simp [hplace, hkey, Assignment.valueOf?]
    · simp [hplace, hkey, Ne.symm hkey, Assignment.valueOf?, value?, itemsIn]
  · simp [hplace, Ne.symm hplace, value?, itemsIn]

end Outline

/-! ### The document of a file -/

namespace Document

/-- The items of a section, none if there is no such section. -/
def itemsAt (d : Document) : Place → Items
  | .defaults => d.defaults
  | .section name => (d.sections.get? name).getD .empty

theorem itemsAt_modify (d : Document) (place place' : Place) (f : Items → Items) :
    (d.modify place f).itemsAt place' = if place' = place then f (d.itemsAt place) else d.itemsAt place' := by
  cases place with
  | defaults => cases place' <;> simp [modify, itemsAt]
  | «section» name =>
    cases place' with
    | defaults => simp [modify, itemsAt]
    | «section» name' =>
      by_cases hname : name' = name
      · simp [modify, itemsAt, Table.get?_alter, hname]
      · simp [modify, itemsAt, Table.get?_alter, hname]

theorem keys_modify_of_mem (d : Document) {place : Place} (h : ∀ name, place = .section name → name ∈ d.sections.keys)
    (f : Items → Items) : (d.modify place f).sections.keys = d.sections.keys := by
  cases place with
  | defaults => rfl
  | «section» name => rw [modify, Table.keys_alter, if_pos (h name rfl)]

/-- The sections and values of a document are those of an outline. -/
structure Shows (d : Document) (o : Outline) : Prop where
  sections : d.sections.keys = o.sections
  values : ∀ place key, ((d.itemsAt place).get? key).map joinValue = o.value? place key

end Document

namespace Progress

/-- What holds after plain lines. The value of the open key has a line already, so blank lines that are added to it
do not show. -/
structure Outlined (p : Progress) (o : Outline) : Prop where
  shown : p.document.Shows o
  place : p.place = o.place
  entered : ∀ name, p.place = .section name → name ∈ p.document.sections.keys
  opened : ∀ key, p.open? = some key → ∃ line lines, (p.document.itemsAt p.place).get? key = some (line :: lines)
  indent : p.indent = 0
  badLines : p.badLines = []

theorem outlined_start : Outlined {} {} := by
  constructor
  case shown =>
    refine ⟨rfl, ?_⟩
    intro place key
    have hempty : Document.empty.itemsAt place = .empty := by
      cases place with
      | defaults => rfl
      | «section» name =>
        rw [Document.itemsAt, Document.empty, Table.get?_insert]
        split <;> rfl
    rw [hempty]
    rfl
  case place => rfl
  case entered =>
    rintro name ⟨⟩
    decide
  case opened => nofun
  case indent => rfl
  case badLines => rfl

namespace Outlined

variable {p : Progress} {o : Outline}

/-- Writing the value of one key in the current section. -/
theorem write (h : p.Outlined o) {o' : Outline} (hplace : o'.place = o.place) (hsections : o'.sections = o.sections)
    (key line : String) (lines : List String) {f : Items → Items}
    (hitems : ∀ key', (f (p.document.itemsAt p.place)).get? key'
      = if key' = key then some (line :: lines) else (p.document.itemsAt p.place).get? key')
    (hvalues : ∀ place key', o'.value? place key'
      = if place = p.place ∧ key' = key then some (Document.joinValue (line :: lines)) else o.value? place key')
    {open? : Option String} (hopen : ∀ key', open? = some key' → key' = key) :
    Outlined { p with document := p.document.modify p.place f, open? := open? } o' := by
  have hkeys : (p.document.modify p.place f).sections.keys = p.document.sections.keys :=
    Document.keys_modify_of_mem _ h.entered _
  constructor
  case shown =>
    refine ⟨hkeys.trans (h.shown.sections.trans hsections.symm), ?_⟩
    intro place key'
    rw [hvalues, Document.itemsAt_modify, ← h.shown.values]
    by_cases hcurrent : place = p.place
    · rw [if_pos hcurrent, hitems]
      by_cases hkey : key' = key <;> simp [hcurrent, hkey]
    · simp [hcurrent]
  case place => exact h.place.trans hplace.symm
  case entered =>
    intro name hname
    rw [hkeys]
    exact h.entered name hname
  case opened =>
    intro key' hkey'
    refine ⟨line, lines, ?_⟩
    rw [Document.itemsAt_modify, if_pos rfl, hitems, if_pos (hopen key' hkey')]
  case indent => exact h.indent
  case badLines => exact h.badLines

theorem extend_empty (h : p.Outlined o) {key : String} (hkey : p.open? = some key) : (p.extend key "").Outlined o := by
  obtain ⟨line, lines, hlines⟩ := h.opened key hkey
  refine h.write rfl rfl key line (lines ++ [""]) ?_ ?_ ?_
  · intro key'
    rw [Table.get?_alter, hlines]
    rfl
  · intro place key'
    -- The blank line does not show in the value.
    rw [← List.cons_append, Document.joinValue_concat_empty]
    split
    · rename_i hboth
      rw [← h.shown.values, hboth.1, hboth.2, hlines, Option.map_some]
    · rfl
  · intro key' hkey'
    exact Option.some.inj (hkey'.symm.trans hkey)

theorem enter (h : p.Outlined o) (name : String) : (p.enter name).Outlined (o.take (.header name)) := by
  rw [Progress.enter, Outline.take]
  split
  · exact ⟨⟨h.shown.sections, h.shown.values⟩, rfl, nofun, nofun, h.indent, h.badLines⟩
  · constructor
    case shown =>
      refine ⟨?_, ?_⟩
      · rw [Document.modify, Table.keys_alter, h.shown.sections]
      · intro place key
        rw [Document.itemsAt_modify]
        split
        · rename_i hplace
          rw [id_eq, ← hplace]
          exact h.shown.values place key
        · exact h.shown.values place key
    case place => rfl
    case entered =>
      rintro _ ⟨⟩
      rw [Document.modify, Table.keys_alter]
      split
      · assumption
      · simp
    case opened => nofun
    case indent => exact h.indent
    case badLines => exact h.badLines

theorem assign (h : p.Outlined o) (key : String) {value : String}
    (hvalue : Text.stripRight value.toList = value.toList) :
    (p.assign key value).Outlined (o.take (.item key value)) := by
  have hplace : (o.take (.item key value)).place = o.place := rfl
  refine h.write hplace rfl key value [] ?_ ?_ ?_
  · intro key'
    exact Table.get?_insert ..
  · intro place key'
    rw [Outline.value?_item, h.place, Document.joinValue_singleton hvalue]
  · intro key' hkey'
    split at hkey'
    · cases hkey'
    · exact (Option.some.inj hkey').symm

theorem take (h : p.Outlined o) (number : Nat) (line : List Char) {content : List Char}
    (hreadable : (Statement.ofContent content).isReadable = true) :
    (p.take number line (.ofContent content)).Outlined (o.take (.ofContent content)) := by
  cases hstatement : Statement.ofContent content with
  | header name => exact h.enter name
  | item key value =>
    have hkey : key ≠ "" := by simpa [hstatement, Statement.isReadable] using hreadable
    rw [Progress.take, if_neg hkey]
    exact h.assign key (Statement.ofContent_eq_item hstatement).2
  | unreadable => simp [hstatement, Statement.isReadable] at hreadable

/-- A plain line is never taken as part of a value, since it is not indented. -/
theorem step (h : p.Outlined o) (number : Nat) {line : List Char} (hline : isPlainLine line = true) :
    (p.step number line).Outlined ((Statement.ofLine? line).elim o o.take) := by
  rw [isPlainLine] at hline
  rw [Progress.step]
  cases hcontent : Content.ofLine line with
  | comment => simpa [Statement.ofLine?, hcontent] using h
  | blank =>
    simp only [Statement.ofLine?, hcontent, Option.elim_none]
    split
    · rename_i key hkey
      exact h.extend_empty hkey
    · exact h
  | text content =>
    simp only [Statement.ofLine?, hcontent, Option.elim_some, Bool.and_eq_true, beq_iff_eq] at hline ⊢
    have hindent : { p with indent := indentation line } = p := by rw [hline.2, ← h.indent]
    have hnot : ¬ p.indent < indentation line := by omega
    have htake := h.take number line hline.1
    rw [takeText, hindent]
    split
    · rw [if_neg hnot]
      exact htake
    · exact htake

theorem run {lines : List (List Char)} (h : p.Outlined o) (number : Nat)
    (hlines : ∀ line ∈ lines, isPlainLine line = true) :
    (p.run number lines).Outlined ((lines.filterMap Statement.ofLine?).foldl Outline.take o) := by
  induction lines generalizing p o number with
  | nil => exact h
  | cons line lines ih =>
    obtain ⟨hline, hrest⟩ := List.forall_mem_cons.mp hlines
    have hnext := ih (h.step number hline) (number + 1) hrest
    rw [Progress.run, List.filterMap_cons]
    cases hstatement : Statement.ofLine? line with
    | none => simpa [hstatement] using hnext
    | some statement => simpa [hstatement] using hnext

end Outlined

end Progress

/-- A text of plain lines is read without a fault, and the document is as its outline says. -/
theorem Document.exists_read_of_plain {text : String} (h : ∀ line ∈ Text.lines text.toList, isPlainLine line = true) :
    ∃ d, read text = .ok d ∧ d.Shows (.ofText text) := by
  have hrun := Progress.outlined_start.run 2 h
  refine ⟨_, ?_, hrun.shown⟩
  rw [read, hrun.badLines, List.isEmpty_nil, if_pos rfl]

end Setting

end Mediation
