import Mediation.Snapshot.Fault
import Mediation.Symbol.Program

/-!
# Snapshots from JSON

Decoding of a dump. Missing fields get their defaults, texts and truth values are taken from any value, and
the first fault in the order of decoding is the one reported.
-/

namespace Mediation.Snapshot

abbrev Fields := List (String × Json)

/-- The result of decoding, or the first fault. -/
abbrev Decoded (α : Type) := Except Fault α

/-! ### Fields -/

/-- The fields of a value that must be an object. -/
def asObject (place : String) : Json → Decoded Fields
  | .obj fields => .ok fields
  | value => .error (.notObject place value.kindName)

/-- The value of a field that must be there. -/
def require (fields : Fields) (key place : String) : Decoded Json :=
  match Json.field? key fields with
  | some value => .ok value
  | none => .error (.missing place key)

/-- The text of a field that must be there and be text. -/
def requireText (fields : Fields) (key place : String) : Decoded String := do
  match ← require fields key place with
  | .str text => .ok text
  | value => .error (.notText (place ++ "." ++ key) value.kindName)

/-- The text of any value in a field. -/
def textOr (fallback : String) (fields : Fields) (key : String) : String :=
  ((Json.field? key fields).map Json.display).getD fallback

/-- The truth of any value in a field. -/
def flagOr (fallback : Bool) (fields : Fields) (key : String) : Bool :=
  ((Json.field? key fields).map Json.truthy).getD fallback

/-- The integer that the value of a field stands for. -/
def integerOr (fallback : Int) (fields : Fields) (key : String) : Decoded Int :=
  match Json.field? key fields with
  | none => .ok fallback
  | some value => value.toInteger.mapError .number

/-- The items of a field that must hold an array; without the field there are none. -/
def itemsOf (fields : Fields) (key place : String) : Decoded (List Json) :=
  match Json.field? key fields with
  | none => .ok []
  | some (.arr items) => .ok items
  | some _ => .error (.notList place key)

/-- One of several choices, given by its label. -/
def choose {α : Type} (all : List α) (label : α → String) (fallback : α) (fields : Fields) (key place : String) :
    Decoded α :=
  let unknown (found : Json) : Decoded α :=
    .error (.unknownChoice (place ++ "." ++ key) found.inner (all.map label))
  match Json.field? key fields with
  | none => .ok fallback
  | some (.str text) =>
    match all.find? fun choice => label choice = text with
    | some choice => .ok choice
    | none => unknown (.str text)
  | some found => unknown found

/-- The value of a field, if it is there and not null. -/
def present? (fields : Fields) (key : String) : Option Json :=
  match Json.field? key fields with
  | some .null => none
  | found => found

/-- The place of an item of an array. -/
def itemPlace (place : String) (index : Nat) : String := place ++ "[" ++ toString index ++ "]"

/-- Decodes items at the places that follow from `index`. -/
def eachFrom {α : Type} (decode : String → Json → Decoded α) (place : String) : Nat → List Json → Decoded (List α)
  | _, [] => .ok []
  | index, item :: rest => do
    let first ← decode (itemPlace place index) item
    return first :: (← eachFrom decode place (index + 1) rest)

def each {α : Type} (decode : String → Json → Decoded α) (place : String) (items : List Json) : Decoded (List α) :=
  eachFrom decode place 0 items

/-- Decodes a value that may be absent. -/
def optional {α : Type} (decode : String → Json → Decoded α) (place : String) : Option Json → Decoded (Option α)
  | none => .ok none
  | some value => return some (← decode place value)

/-! ### Spans and references -/

/-- Decodes a span; null is the unknown span. The end defaults to the start. -/
def span (place : String) : Json → Decoded Span
  | .null => .ok {}
  | value => do
    let fields ← asObject place value
    let startLine ← integerOr 0 fields "startLine"
    let startColumn ← integerOr 0 fields "startColumn"
    let file := textOr "" fields "file"
    let endLine ← integerOr startLine fields "endLine"
    let endColumn ← integerOr startColumn fields "endColumn"
    return ⟨file, startLine, startColumn, endLine, endColumn⟩

def spanOf (fields : Fields) (place : String) : Decoded Span :=
  span (place ++ ".span") ((Json.field? "span" fields).getD .null)

mutual

def typeRef (place : String) : Json → Decoded TypeRef
  | .obj fields => do
    let name ← requireText fields "name" place
    let scope := textOr "" fields "namespace"
    let assembly := textOr "" fields "assembly"
    return ⟨name, scope, assembly, ← typeArguments place fields⟩
  | value => .error (.notObject place value.kindName)

/-- Decodes the type arguments among the fields of an object. -/
def typeArguments (place : String) : Fields → Decoded (List TypeRef)
  | [] => .ok []
  | (key, value) :: rest =>
    if key = "typeArguments" then
      match value with
      | .arr items => typeRefsFrom (place ++ ".typeArguments") 0 items
      | _ => .error (.notList place "typeArguments")
    else typeArguments place rest

/-- Decodes references at the places that follow from `index`. -/
def typeRefsFrom (place : String) (index : Nat) : List Json → Decoded (List TypeRef)
  | [] => .ok []
  | item :: rest => do
    let first ← typeRef (itemPlace place index) item
    return first :: (← typeRefsFrom place (index + 1) rest)

end

/-! ### Declarations, calls and suppressions -/

def typeDecl (place : String) (value : Json) : Decoded TypeDecl := do
  let fields ← asObject place value
  let name ← requireText fields "name" place
  let scope := textOr "" fields "namespace"
  let assembly := textOr "" fields "assembly"
  let kind ← choose TypeKind.all TypeKind.label .classType fields "kind" place
  let typeParameters := (← itemsOf fields "typeParameters" place).map Json.display
  let accessibility ←
    choose Accessibility.all Accessibility.label .internalAccess fields "accessibility" place
  let isAbstract := flagOr false fields "isAbstract"
  let baseType ← optional typeRef (place ++ ".baseType") (present? fields "baseType")
  let interfaces ← each typeRef (place ++ ".interfaces") (← itemsOf fields "interfaces" place)
  let declSpan ← spanOf fields place
  let inSource := flagOr true fields "inSource"
  return ⟨name, scope, assembly, kind, typeParameters, accessibility, isAbstract, baseType, interfaces,
    declSpan, inSource⟩

def parameter (place : String) (value : Json) : Decoded Parameter := do
  let fields ← asObject place value
  let name ← requireText fields "name" place
  let type ← optional typeRef (place ++ ".type") (present? fields "type")
  return ⟨name, type, flagOr false fields "hasDefault"⟩

def method (place : String) (value : Json) : Decoded Method := do
  let fields ← asObject place value
  let parameters ← each parameter (place ++ ".parameters") (← itemsOf fields "parameters" place)
  let name ← requireText fields "name" place
  let containingType ← typeRef (place ++ ".containingType") (← require fields "containingType" place)
  let typeArguments ← typeArguments place fields
  return ⟨name, containingType, parameters, typeArguments, flagOr false fields "isStatic"⟩

/-- Decodes an argument; its span may be absent. -/
def argument (place : String) (value : Json) : Decoded Argument := do
  let fields ← asObject place value
  let parameter := textOr "" fields "parameter"
  let kind ← choose ArgumentKind.all ArgumentKind.label .explicit fields "kind" place
  let argumentSpan ← optional span (place ++ ".span") (Json.field? "span" fields)
  return ⟨parameter, kind, argumentSpan⟩

def invocation (place : String) (value : Json) : Decoded Invocation := do
  let fields ← asObject place value
  let arguments ← each argument (place ++ ".arguments") (← itemsOf fields "arguments" place)
  let target ← method (place ++ ".target") (← require fields "target" place)
  let callSpan ← spanOf fields place
  let containingType ← optional typeRef (place ++ ".containingType") (present? fields "containingType")
  return ⟨target, arguments, callSpan, containingType⟩

def suppression (place : String) (value : Json) : Decoded SuppressionMark := do
  let fields ← asObject place value
  let ruleId ← requireText fields "ruleId" place
  let file := textOr "" fields "file"
  return ⟨ruleId, file, ← integerOr 0 fields "line"⟩

/-- Decodes a whole dump; a program without a name gets `defaultName`. -/
def program (defaultName : String) (value : Json) : Decoded Program := do
  let fields ← asObject "dump" value
  let name := textOr defaultName fields "name"
  let types ← each typeDecl "types" (← itemsOf fields "types" "dump")
  let invocations ← each invocation "invocations" (← itemsOf fields "invocations" "dump")
  let suppressions ← each suppression "suppressions" (← itemsOf fields "suppressions" "dump")
  return ⟨name, types, invocations, suppressions⟩

end Mediation.Snapshot
