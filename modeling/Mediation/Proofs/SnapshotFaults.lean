import Mediation.CommandLine.Session
import Mediation.Proofs.JsonLexing
import Mediation.Proofs.Utf8

/-!
# How decoding a dump ends

Whatever JSON value a dump is, decoding it returns a program, refuses the dump, or breaks down over an infinite
number. It breaks down only if one of the places where a dump holds whole numbers holds an infinite one: the lines and
columns of the spans, and the lines of the suppressions. So a readable file with a JSON text is loaded or refused under
its own path, as long as none of these places holds an infinite number.
-/

namespace Mediation

/-! ### Places in a value -/

namespace Json

/-- One step into a value. -/
inductive Step where
  | field (key : String)
  | item (index : Nat)
  deriving DecidableEq

/-- What stands inside a value at the end of some steps. -/
def inside? : List Step → Json → Option Json
  | [], value => some value
  | .field key :: steps, .obj fields => (field? key fields).bind (inside? steps)
  | .item index :: steps, .arr items => items[index]?.bind (inside? steps)
  | _, _ => none

def isInfinite : Json → Bool
  | .float (.infinity _) => true
  | _ => false

theorem inside?_append (steps rest : List Step) (value : Json) :
    value.inside? (steps ++ rest) = (value.inside? steps).bind (inside? rest) := by
  induction steps generalizing value with
  | nil => rfl
  | cons step steps ih =>
    cases step with
    | field key =>
      cases value with
      | obj fields =>
        rw [List.cons_append, inside?, inside?, Option.bind_assoc]
        exact congrArg _ (funext ih)
      | _ => rfl
    | item index =>
      cases value with
      | arr items =>
        rw [List.cons_append, inside?, inside?, Option.bind_assoc]
        exact congrArg _ (funext ih)
      | _ => rfl

/-- A value holds an infinite number at the end of some steps. -/
def InfiniteAt (value : Json) (steps : List Step) : Prop :=
  ∃ number, value.inside? steps = some number ∧ number.isInfinite = true

theorem InfiniteAt.under {value part : Json} {steps rest : List Step} (hpart : value.inside? steps = some part)
    (h : part.InfiniteAt rest) : value.InfiniteAt (steps ++ rest) := by
  obtain ⟨number, hnumber, hinfinite⟩ := h
  exact ⟨number, by rw [inside?_append, hpart, Option.bind_some, hnumber], hinfinite⟩

theorem toInteger_eq_infinite_iff (value : Json) : value.toInteger = .error .infinite ↔ value.isInfinite = true := by
  cases value with
  | float number => cases number <;> simp [toInteger, isInfinite]
  | str text =>
    rw [toInteger]
    cases Numeral.parse? text <;> simp [isInfinite]
  | _ => simp [toInteger, isInfinite]

end Json

namespace Snapshot

/-- The fields of a span that hold numbers. -/
def spanNumbers : List String := ["startLine", "startColumn", "endLine", "endColumn"]

/-- The places at which a dump holds whole numbers. -/
inductive NumberPlace : List Json.Step → Prop where
  | declaration (index : Nat) {key : String} (hkey : key ∈ spanNumbers) :
    NumberPlace [.field "types", .item index, .field "span", .field key]
  | call (index : Nat) {key : String} (hkey : key ∈ spanNumbers) :
    NumberPlace [.field "invocations", .item index, .field "span", .field key]
  | argument (index position : Nat) {key : String} (hkey : key ∈ spanNumbers) :
    NumberPlace [.field "invocations", .item index, .field "arguments", .item position, .field "span", .field key]
  | suppression (index : Nat) : NumberPlace [.field "suppressions", .item index, .field "line"]

/-! ### Breaking down -/

/-- Decoding ends over an infinite number. -/
def BreaksDown {α : Type} (x : Decoded α) : Prop := x = .error (.number .infinite)

theorem Fault.breakdown?_eq_none_or (fault : Fault) : fault.breakdown? = none ∨ fault = .number .infinite := by
  rcases fault with - | - | - | - | - | (- | - | - | -) <;> simp [breakdown?]

section

variable {α β : Type}

@[simp] theorem not_breaksDown_ok (x : α) : ¬ BreaksDown (.ok x : Decoded α) := by simp [BreaksDown]

@[simp] theorem not_breaksDown_pure (x : α) : ¬ BreaksDown (pure x : Decoded α) := not_breaksDown_ok x

@[simp] theorem breaksDown_error_iff (fault : Fault) :
    BreaksDown (.error fault : Decoded α) ↔ fault = .number .infinite := by
  simp [BreaksDown]

/-- A sequence breaks down in its first part, or in the second after the first has returned. -/
theorem breaksDown_bind_iff (x : Decoded α) (f : α → Decoded β) :
    BreaksDown (x >>= f) ↔ BreaksDown x ∨ ∃ a, x = .ok a ∧ BreaksDown (f a) := by
  cases x with
  | ok a => simp [bind, Except.bind]
  | error fault => simp [bind, Except.bind]

theorem not_breaksDown_bind {x : Decoded α} {f : α → Decoded β} (hx : ¬ BreaksDown x)
    (hf : ∀ a, ¬ BreaksDown (f a)) : ¬ BreaksDown (x >>= f) := by
  rw [breaksDown_bind_iff]
  rintro (h | ⟨a, -, h⟩)
  · exact hx h
  · exact hf a h

/-! ### Fields -/

variable (fields : Fields) (key place : String)

@[simp] theorem not_breaksDown_asObject (value : Json) : ¬ BreaksDown (asObject place value) := by
  cases value <;> simp [asObject]

@[simp] theorem not_breaksDown_require : ¬ BreaksDown (require fields key place) := by
  rw [require]
  cases Json.field? key fields <;> simp

@[simp] theorem not_breaksDown_requireText : ¬ BreaksDown (requireText fields key place) := by
  refine not_breaksDown_bind (not_breaksDown_require fields key place) fun value => ?_
  cases value <;> simp

@[simp] theorem not_breaksDown_itemsOf : ¬ BreaksDown (itemsOf fields key place) := by
  rw [itemsOf]
  split <;> simp

@[simp] theorem not_breaksDown_choose (all : List α) (label : α → String) (fallback : α) :
    ¬ BreaksDown (choose all label fallback fields key place) := by
  rw [choose]
  split
  · simp
  · split <;> simp
  · simp

variable {fields key place}

/-- What decodes the fields of an object breaks down on the fields only. -/
theorem exists_fields_of_asObject {value : Json} {decode : Fields → Decoded α}
    (h : BreaksDown (asObject place value >>= decode)) : ∃ fields, value = .obj fields ∧ BreaksDown (decode fields) := by
  rw [breaksDown_bind_iff] at h
  rcases h with h | ⟨fields, hfields, h⟩
  · exact absurd h (not_breaksDown_asObject place value)
  · refine ⟨fields, ?_, h⟩
    cases value <;> simp_all [asObject]

theorem field?_of_itemsOf {items : List Json} (h : itemsOf fields key place = .ok items) (hitems : items ≠ []) :
    Json.field? key fields = some (.arr items) := by
  rw [itemsOf] at h
  split at h <;> simp_all

theorem inside?_of_field? {value : Json} (h : Json.field? key fields = some value) :
    (Json.obj fields).inside? [.field key] = some value := by
  simp [Json.inside?, h]

theorem infiniteAt_of_integerOr {fallback : Int} (h : BreaksDown (integerOr fallback fields key)) :
    (Json.obj fields).InfiniteAt [.field key] := by
  rw [integerOr] at h
  split at h
  · simp at h
  · rename_i value hvalue
    refine ⟨value, inside?_of_field? hvalue, (Json.toInteger_eq_infinite_iff value).mp ?_⟩
    cases hinteger : value.toInteger with
    | ok => simp [hinteger, BreaksDown, Except.mapError] at h
    | error => simpa [hinteger, BreaksDown, Except.mapError] using h

variable {decode : String → Json → Decoded α}

theorem exists_item_of_eachFrom {items : List Json} {index : Nat} (h : BreaksDown (eachFrom decode place index items)) :
    ∃ offset item, items[offset]? = some item ∧ BreaksDown (decode (itemPlace place (index + offset)) item) := by
  induction items generalizing index with
  | nil => simp [eachFrom] at h
  | cons first rest ih =>
    rw [eachFrom, breaksDown_bind_iff] at h
    rcases h with hfirst | ⟨_, _, hrest⟩
    · exact ⟨0, first, rfl, hfirst⟩
    · rw [breaksDown_bind_iff] at hrest
      simp only [not_breaksDown_pure, and_false, exists_false, or_false] at hrest
      obtain ⟨offset, item, hitem, hbreaks⟩ := ih hrest
      exact ⟨offset + 1, item, hitem, by rwa [show index + (offset + 1) = index + 1 + offset by omega]⟩

/-- The items of a field break down over one of them. -/
theorem exists_item_of_each {owner : String} {items : List Json} (hitems : itemsOf fields key owner = .ok items)
    (h : BreaksDown (each decode place items)) :
    ∃ index item, (Json.obj fields).inside? [.field key, .item index] = some item
      ∧ BreaksDown (decode (itemPlace place index) item) := by
  obtain ⟨index, item, hitem, hbreaks⟩ := exists_item_of_eachFrom h
  have hfield := field?_of_itemsOf hitems (by rintro rfl; simp at hitem)
  refine ⟨index, item, by simp [Json.inside?, hfield, hitem], ?_⟩
  rwa [Nat.zero_add] at hbreaks

theorem not_breaksDown_each (hdecode : ∀ place item, ¬ BreaksDown (decode place item)) (place : String)
    (items : List Json) : ¬ BreaksDown (each decode place items) := by
  intro h
  obtain ⟨_, item, _, hbreaks⟩ := exists_item_of_eachFrom h
  exact hdecode _ item hbreaks

theorem exists_value_of_optional {value : Option Json} (h : BreaksDown (optional decode place value)) :
    ∃ found, value = some found ∧ BreaksDown (decode place found) := by
  cases value with
  | none => simp [optional] at h
  | some found =>
    rw [optional, breaksDown_bind_iff] at h
    exact ⟨found, rfl, by simpa using h⟩

theorem not_breaksDown_optional (hdecode : ∀ place value, ¬ BreaksDown (decode place value)) (place : String)
    (value : Option Json) : ¬ BreaksDown (optional decode place value) := by
  intro h
  obtain ⟨found, -, hbreaks⟩ := exists_value_of_optional h
  exact hdecode place found hbreaks

end

/-! ### Spans and references -/

/-- Only a number of a span breaks it down. -/
theorem infiniteAt_of_span {place : String} {value : Json} (h : BreaksDown (span place value)) :
    ∃ key ∈ spanNumbers, value.InfiniteAt [.field key] := by
  by_cases hnull : value = .null
  · subst hnull
    simp [span] at h
  rw [span.eq_2 place value hnull] at h
  obtain ⟨fields, rfl, hfields⟩ := exists_fields_of_asObject h
  simp only [breaksDown_bind_iff, not_breaksDown_pure, and_false, exists_false, or_false] at hfields
  rcases hfields with h | ⟨_, _, h | ⟨_, _, h | ⟨_, _, h⟩⟩⟩
  · exact ⟨"startLine", by decide, infiniteAt_of_integerOr h⟩
  · exact ⟨"startColumn", by decide, infiniteAt_of_integerOr h⟩
  · exact ⟨"endLine", by decide, infiniteAt_of_integerOr h⟩
  · exact ⟨"endColumn", by decide, infiniteAt_of_integerOr h⟩

theorem infiniteAt_of_spanOf {fields : Fields} {place : String} (h : BreaksDown (spanOf fields place)) :
    ∃ key ∈ spanNumbers, (Json.obj fields).InfiniteAt [.field "span", .field key] := by
  rw [spanOf] at h
  cases hspan : Json.field? "span" fields with
  | none => simp [hspan, span] at h
  | some value =>
    rw [hspan, Option.getD_some] at h
    obtain ⟨key, hkey, hinfinite⟩ := infiniteAt_of_span h
    exact ⟨key, hkey, hinfinite.under (inside?_of_field? hspan)⟩

mutual

theorem not_breaksDown_typeRef (place : String) : (value : Json) → ¬ BreaksDown (typeRef place value)
  | .obj fields => by
    rw [typeRef]
    refine not_breaksDown_bind (by simp) fun name => ?_
    exact not_breaksDown_bind (not_breaksDown_typeArguments place fields) fun _ => by simp
  | .null | .bool _ | .int _ | .float _ | .str _ | .arr _ => by simp [typeRef]

theorem not_breaksDown_typeArguments (place : String) :
    (fields : Fields) → ¬ BreaksDown (typeArguments place fields)
  | [] => by simp [typeArguments]
  | (key, .arr items) :: rest => by
    rw [typeArguments]
    split
    · exact not_breaksDown_typeRefsFrom (place ++ ".typeArguments") 0 items
    · exact not_breaksDown_typeArguments place rest
  | (key, .null) :: rest | (key, .bool _) :: rest | (key, .int _) :: rest | (key, .float _) :: rest
  | (key, .str _) :: rest | (key, .obj _) :: rest => by
    rw [typeArguments]
    · split
      · simp
      · exact not_breaksDown_typeArguments place rest
    · simp

theorem not_breaksDown_typeRefsFrom (place : String) (index : Nat) :
    (items : List Json) → ¬ BreaksDown (typeRefsFrom place index items)
  | [] => by simp [typeRefsFrom]
  | item :: rest => by
    rw [typeRefsFrom]
    refine not_breaksDown_bind (not_breaksDown_typeRef (itemPlace place index) item) fun _ => ?_
    exact not_breaksDown_bind (not_breaksDown_typeRefsFrom place (index + 1) rest) fun _ => by simp

end

/-! ### Declarations, calls and suppressions -/

theorem infiniteAt_of_typeDecl {place : String} {value : Json} (h : BreaksDown (typeDecl place value)) :
    ∃ key ∈ spanNumbers, value.InfiniteAt [.field "span", .field key] := by
  obtain ⟨fields, rfl, hfields⟩ := exists_fields_of_asObject h
  simp only [breaksDown_bind_iff, not_breaksDown_requireText, not_breaksDown_choose, not_breaksDown_itemsOf,
    not_breaksDown_optional not_breaksDown_typeRef, not_breaksDown_each not_breaksDown_typeRef, not_breaksDown_pure,
    false_or, and_false, exists_false, or_false] at hfields
  obtain ⟨_, _, _, _, _, _, _, _, _, _, _, _, _, _, h⟩ := hfields
  exact infiniteAt_of_spanOf h

theorem not_breaksDown_parameter (place : String) (value : Json) : ¬ BreaksDown (parameter place value) := by
  refine not_breaksDown_bind (by simp) fun fields => not_breaksDown_bind (by simp) fun name => ?_
  exact not_breaksDown_bind (not_breaksDown_optional not_breaksDown_typeRef _ _) fun _ => by simp

theorem not_breaksDown_method (place : String) (value : Json) : ¬ BreaksDown (method place value) := by
  refine not_breaksDown_bind (by simp) fun fields => not_breaksDown_bind (by simp) fun items => ?_
  refine not_breaksDown_bind (not_breaksDown_each not_breaksDown_parameter _ _) fun parameters => ?_
  refine not_breaksDown_bind (by simp) fun name => not_breaksDown_bind (by simp) fun containing => ?_
  refine not_breaksDown_bind (not_breaksDown_typeRef _ _) fun containingType => ?_
  exact not_breaksDown_bind (not_breaksDown_typeArguments _ _) fun _ => by simp

theorem infiniteAt_of_argument {place : String} {value : Json} (h : BreaksDown (argument place value)) :
    ∃ key ∈ spanNumbers, value.InfiniteAt [.field "span", .field key] := by
  obtain ⟨fields, rfl, hfields⟩ := exists_fields_of_asObject h
  simp only [breaksDown_bind_iff, not_breaksDown_choose, not_breaksDown_pure, false_or, and_false, exists_false,
    or_false] at hfields
  obtain ⟨_, _, h⟩ := hfields
  obtain ⟨found, hfound, h⟩ := exists_value_of_optional h
  obtain ⟨key, hkey, hinfinite⟩ := infiniteAt_of_span h
  exact ⟨key, hkey, hinfinite.under (inside?_of_field? hfound)⟩

/-- A call breaks down over the span of an argument, or over its own. -/
theorem infiniteAt_of_invocation {place : String} {value : Json} (h : BreaksDown (invocation place value)) :
    ∃ steps, (∀ index, NumberPlace (.field "invocations" :: .item index :: steps)) ∧ value.InfiniteAt steps := by
  obtain ⟨fields, rfl, hfields⟩ := exists_fields_of_asObject h
  simp only [breaksDown_bind_iff, not_breaksDown_itemsOf, not_breaksDown_require, not_breaksDown_method,
    not_breaksDown_optional not_breaksDown_typeRef, not_breaksDown_pure, false_or, and_false, exists_false,
    or_false] at hfields
  obtain ⟨items, hitems, h | ⟨_, _, _, _, _, _, h⟩⟩ := hfields
  · obtain ⟨position, item, hitem, h⟩ := exists_item_of_each hitems h
    obtain ⟨key, hkey, hinfinite⟩ := infiniteAt_of_argument h
    exact ⟨_, fun index => .argument index position hkey, hinfinite.under hitem⟩
  · obtain ⟨key, hkey, hinfinite⟩ := infiniteAt_of_spanOf h
    exact ⟨_, fun index => .call index hkey, hinfinite⟩

theorem infiniteAt_of_suppression {place : String} {value : Json} (h : BreaksDown (suppression place value)) :
    value.InfiniteAt [.field "line"] := by
  obtain ⟨fields, rfl, hfields⟩ := exists_fields_of_asObject h
  simp only [breaksDown_bind_iff, not_breaksDown_requireText, not_breaksDown_pure, false_or, and_false,
    exists_false, or_false] at hfields
  obtain ⟨_, _, h⟩ := hfields
  exact infiniteAt_of_integerOr h

/-! ### Dumps -/

theorem infiniteAt_of_program {defaultName : String} {value : Json} (h : BreaksDown (program defaultName value)) :
    ∃ steps, NumberPlace steps ∧ value.InfiniteAt steps := by
  obtain ⟨fields, rfl, hfields⟩ := exists_fields_of_asObject h
  simp only [breaksDown_bind_iff, not_breaksDown_itemsOf, not_breaksDown_pure, false_or, and_false, exists_false,
    or_false] at hfields
  obtain ⟨types, htypes, h | ⟨_, _, calls, hcalls, h | ⟨_, _, marks, hmarks, h⟩⟩⟩ := hfields
  · obtain ⟨index, item, hitem, h⟩ := exists_item_of_each htypes h
    obtain ⟨key, hkey, hinfinite⟩ := infiniteAt_of_typeDecl h
    exact ⟨_, .declaration index hkey, hinfinite.under hitem⟩
  · obtain ⟨index, item, hitem, h⟩ := exists_item_of_each hcalls h
    obtain ⟨steps, hsteps, hinfinite⟩ := infiniteAt_of_invocation h
    exact ⟨_, hsteps index, hinfinite.under hitem⟩
  · obtain ⟨index, item, hitem, h⟩ := exists_item_of_each hmarks h
    exact ⟨_, .suppression index, (infiniteAt_of_suppression h).under hitem⟩

theorem program_ok_or_error (defaultName : String) (value : Json) :
    (∃ p, program defaultName value = .ok p)
      ∨ (∃ fault, program defaultName value = .error fault ∧ fault.breakdown? = none)
      ∨ program defaultName value = .error (.number .infinite)
        ∧ ∃ steps, NumberPlace steps ∧ value.InfiniteAt steps := by
  cases hprogram : program defaultName value with
  | ok p => exact Or.inl ⟨p, rfl⟩
  | error fault =>
    rcases fault.breakdown?_eq_none_or with hfault | rfl
    · exact Or.inr (Or.inl ⟨fault, rfl, hfault⟩)
    · exact Or.inr (Or.inr ⟨rfl, infiniteAt_of_program hprogram⟩)

/-! ### Files -/

/-- The file at a path can be read and holds the text of a JSON value. -/
def HoldsJson (files : FileReader) (path : Path) (value : Json) : Prop :=
  ∃ octets text, files path = .ok octets ∧ Text.Utf8.decode octets = .ok text
    ∧ Json.read (Text.unifyBreaks text) = .ok value

theorem load_of_holdsJson {files : FileReader} {path : Path} {value : Json} (h : HoldsJson files path value) :
    load files path = (program path.stem value).mapError .notProgram := by
  obtain ⟨octets, text, hfile, htext, hvalue⟩ := h
  rw [load, hfile]
  change ofOctets path.stem octets = _
  rw [ofOctets, htext]
  change ((Json.read (Text.unifyBreaks text)).mapError LoadFault.notJson >>= _) = _
  rw [hvalue]
  rfl

/-- A dump that can be decoded is loaded, and one that is refused is refused under its path. -/
theorem loadPrograms_of_holdsJson {files : FileReader} {dump : String} {value : Json}
    (h : HoldsJson files (Path.ofString dump) value)
    (hfinite : ∀ steps, NumberPlace steps → ¬ value.InfiniteAt steps) :
    (∃ p log, load files (Path.ofString dump) = .ok p
        ∧ CommandLine.loadPrograms files [dump] = .ok (.ready [p] log))
      ∨ ∃ fault, load files (Path.ofString dump) = .error fault ∧ fault.breakdown? = none
        ∧ CommandLine.loadPrograms files [dump]
          = .ok (.refused ((Path.ofString dump).written ++ ": " ++ fault.reason) []) := by
  have hload := load_of_holdsJson h
  rcases program_ok_or_error (Path.ofString dump).stem value with
    ⟨p, hp⟩ | ⟨fault, hfault, hrefused⟩ | ⟨-, steps, hsteps, hinfinite⟩
  · rw [hp] at hload
    refine Or.inl ⟨p, [loadLog (Path.ofString dump) p], hload, ?_⟩
    rw [CommandLine.loadPrograms, CommandLine.Loader.loadPrograms, CommandLine.Loader.program_ofFiles, hload]
    rfl
  · rw [hfault] at hload
    have hbreakdown : (LoadFault.notProgram fault).breakdown? = none := hrefused
    refine Or.inr ⟨.notProgram fault, hload, hbreakdown, ?_⟩
    rw [CommandLine.loadPrograms, CommandLine.Loader.loadPrograms, CommandLine.Loader.program_ofFiles, hload]
    simp [Except.mapError, hbreakdown, refusal]
  · exact absurd hinfinite (hfinite steps hsteps)

/-- Every JSON value is decoded or refused as a dump, unless a place of a number holds an infinite one. Without those,
a readable file with a JSON text is loaded or refused under its path. -/
theorem dump_returned_or_refused (value : Json) :
    (∀ defaultName, (∃ p, program defaultName value = .ok p)
        ∨ (∃ fault, program defaultName value = .error fault ∧ fault.breakdown? = none)
        ∨ program defaultName value = .error (.number .infinite)
          ∧ ∃ steps, NumberPlace steps ∧ value.InfiniteAt steps)
      ∧ ((∀ steps, NumberPlace steps → ¬ value.InfiniteAt steps) →
        ∀ files dump, HoldsJson files (Path.ofString dump) value →
          (∃ p log, load files (Path.ofString dump) = .ok p
            ∧ CommandLine.loadPrograms files [dump] = .ok (.ready [p] log))
          ∨ ∃ fault, load files (Path.ofString dump) = .error fault ∧ fault.breakdown? = none
            ∧ CommandLine.loadPrograms files [dump]
              = .ok (.refused ((Path.ofString dump).written ++ ": " ++ fault.reason) [])) :=
  ⟨fun defaultName => program_ok_or_error defaultName value,
    fun hfinite _ _ hjson => loadPrograms_of_holdsJson hjson hfinite⟩

/-- Files that hold the given text under every path. -/
def everywhere (content : String) : FileReader := fun _ => .ok content.toUTF8.data.toList

/-- A dump with one suppression is read if its line is a scalar. -/
theorem read_of_scanScalar {c : Char} {cs : List Char} {line : Json} (hc : Json.startsScalar c = true)
    (hscan : Json.scanScalar (c :: cs) = some (line, ['\x7d', ']', '\x7d'])) {text : List Char}
    (htext : text = '\x7b' :: (Json.writeString "suppressions" ++ ':' :: ' ' :: '[' :: '\x7b'
      :: (Json.writeString "ruleId" ++ ':' :: ' ' :: (Json.writeString "GMDTR01" ++ ',' :: ' '
        :: (Json.writeString "line" ++ ':' :: ' ' :: c :: cs))))) :
    Json.read text = .ok (.obj [("suppressions", .arr [.obj [("ruleId", .str "GMDTR01"), ("line", line)]])]) := by
  subst htext
  rw [Json.read, if_neg (by simp), Json.lex_punctuation rfl, Json.lex_writeString, Json.lex_punctuation rfl,
    Json.lex_blank, Json.lex_punctuation rfl, Json.lex_punctuation rfl, Json.lex_writeString,
    Json.lex_punctuation rfl, Json.lex_blank, Json.lex_writeString, Json.lex_punctuation rfl, Json.lex_blank,
    Json.lex_writeString, Json.lex_punctuation rfl, Json.lex_blank, Json.lex_scalar hc hscan,
    Json.lex_punctuation rfl, Json.lex_punctuation rfl, Json.lex_punctuation rfl]
  simp only [Json.lex]
  rfl

/-- A dump with a suppression on a line that is no number. -/
def unnumberedDump : String :=
  "\x7b\"suppressions\": [\x7b\"ruleId\": \"GMDTR01\", \"line\": NaN\x7d]\x7d"

theorem dump_returned_or_refused_unnumbered :
    ∃ value : Json, HoldsJson (everywhere unnumberedDump) (Path.ofString "dumps/a.json") value
      ∧ (∀ steps, NumberPlace steps → ¬ value.InfiniteAt steps)
      ∧ ∃ fault, load (everywhere unnumberedDump) (Path.ofString "dumps/a.json") = .error fault
        ∧ fault.breakdown? = none
        ∧ CommandLine.loadPrograms (everywhere unnumberedDump) ["dumps/a.json"]
          = .ok (.refused ((Path.ofString "dumps/a.json").written ++ ": " ++ fault.reason) []) := by
  let value : Json :=
    .obj [("suppressions", .arr [.obj [("ruleId", .str "GMDTR01"), ("line", .float .nan)]])]
  have hjson : HoldsJson (everywhere unnumberedDump) (Path.ofString "dumps/a.json") value :=
    ⟨_, unnumberedDump.toList, rfl, Text.Utf8.decode_toUTF8 _, read_of_scanScalar (c := 'N') rfl rfl rfl⟩
  have hfinite : ∀ steps, NumberPlace steps → ¬ value.InfiniteAt steps := by
    rintro _ (⟨_, _⟩ | ⟨_, _⟩ | ⟨_, _, _⟩ | ⟨_ | _⟩) ⟨number, hnumber, hinfinite⟩ <;>
      simp [value, Json.inside?, Json.field?, Table.lookup] at hnumber
    subst hnumber
    simp [Json.isInfinite] at hinfinite
  refine ⟨value, hjson, hfinite, ?_⟩
  rcases (dump_returned_or_refused value).2 hfinite _ _ hjson with ⟨p, log, hload, -⟩ | hrefused
  · have hfault : program (Path.ofString "dumps/a.json").stem value = .error (.number .notANumber) := rfl
    rw [load_of_holdsJson hjson, hfault] at hload
    simp [Except.mapError] at hload
  · exact hrefused

/-- A dump with a suppression on a line beyond every number. -/
def endlessDump : String :=
  "\x7b\"suppressions\": [\x7b\"ruleId\": \"GMDTR01\", \"line\": 1e999\x7d]\x7d"

/-- A dump with an infinite line is neither returned nor refused. -/
theorem infinite_line_breaks_down :
    CommandLine.loadPrograms (everywhere endlessDump) ["dumps/a.json"] = .error .infiniteNumber
      ∧ ∀ defaultName, program defaultName
          (.obj [("suppressions", .arr [.obj [("ruleId", .str "GMDTR01"), ("line", .float (.infinity false))]])])
        = .error (.number .infinite) := by
  have hjson : HoldsJson (everywhere endlessDump) (Path.ofString "dumps/a.json")
      (.obj [("suppressions", .arr [.obj [("ruleId", .str "GMDTR01"), ("line", .float (.infinity false))]])]) :=
    ⟨_, endlessDump.toList, rfl, Text.Utf8.decode_toUTF8 _, read_of_scanScalar (c := '1') rfl rfl rfl⟩
  constructor
  · rw [CommandLine.loadPrograms, CommandLine.Loader.loadPrograms, CommandLine.Loader.program_ofFiles,
      load_of_holdsJson hjson]
    rfl
  · intro defaultName
    rfl

end Snapshot

end Mediation
