import Mathlib.Data.List.Basic
import Mediation.Snapshot.Decode
import Mediation.Snapshot.Encode

/-!
# Dumps and back

Decoding undoes encoding, for every program and whatever default name is given. The encoder and the decoder agree
record by record: one lemma for each way in which the encoder writes a part (a list, a part that may be absent, a word
of an enumeration), and one for each record. So what was loaded once can be written down and loaded again without a
change.
-/

namespace Mediation

namespace Snapshot

@[simp] theorem ok_bind {α β : Type} (x : α) (f : α → Decoded β) : ((.ok x : Decoded α) >>= f) = f x := rfl

/-! ### Fields -/

@[simp] theorem field?_nil (key : String) : Json.field? key [] = none := rfl

@[simp] theorem field?_cons (key name : String) (value : Json) (fields : Fields) :
    Json.field? key ((name, value) :: fields) = if name = key then some value else Json.field? key fields := rfl

@[simp] theorem field?_optionalField {α : Type} (key : String) (encode : α → Json) (value : Option α) :
    Json.field? key (Json.optionalField key encode value) = value.map encode := by
  cases value <;> simp [Json.optionalField]

theorem present?_cons_of_ne {key name : String} (hname : name ≠ key) (value : Json) (fields : Fields) :
    present? ((name, value) :: fields) key = present? fields key := by
  rw [present?, present?, field?_cons, if_neg hname]

/-- A reference is never encoded as null, so it is present exactly if it was written. -/
theorem present?_optionalField (key : String) (value : Option TypeRef) :
    present? (Json.optionalField key TypeRef.toJson value) key = value.map TypeRef.toJson := by
  rw [present?, field?_optionalField]
  rcases value with _ | ⟨name, scope, assembly, _ | ⟨argument, rest⟩⟩ <;> rfl

/-! ### Lists and parts that may be absent -/

theorem each_map {α : Type} {decode : String → Json → Decoded α} {encode : α → Json}
    (hdecode : ∀ place x, decode place (encode x) = .ok x) (place : String) (xs : List α) :
    each decode place (xs.map encode) = .ok xs := by
  have hfrom : ∀ index, eachFrom decode place index (xs.map encode) = .ok xs := by
    induction xs with
    | nil => exact fun _ => rfl
    | cons x xs ih =>
      intro index
      rw [List.map_cons, eachFrom, hdecode, ok_bind, ih]
      rfl
  exact hfrom 0

theorem optional_map {α : Type} {decode : String → Json → Decoded α} {encode : α → Json}
    (hdecode : ∀ place x, decode place (encode x) = .ok x) (place : String) (value : Option α) :
    optional decode place (value.map encode) = .ok value := by
  cases value with
  | none => rfl
  | some x =>
    change (do return some (← decode place (encode x))) = _
    rw [hdecode]
    rfl

theorem map_display_str (texts : List String) : (texts.map Json.str).map Json.display = texts := by
  rw [List.map_map]
  exact List.map_id texts

/-! ### Words of the enumerations -/

theorem find?_label_typeKind (kind : TypeKind) :
    TypeKind.all.find? (fun other => other.label = kind.label) = some kind := by
  cases kind <;> decide

theorem find?_label_accessibility (accessibility : Accessibility) :
    Accessibility.all.find? (fun other => other.label = accessibility.label) = some accessibility := by
  cases accessibility <;> decide

theorem find?_label_argumentKind (kind : ArgumentKind) :
    ArgumentKind.all.find? (fun other => other.label = kind.label) = some kind := by
  cases kind <;> decide

/-! ### Spans and references -/

theorem span_toJson (place : String) (s : Span) : span place s.toJson = .ok s := by
  simp [span, Span.toJson, asObject, integerOr, textOr, Json.toInteger, Json.display, Except.mapError]

theorem listToJson_eq_map (rs : List TypeRef) : TypeRef.listToJson rs = rs.map TypeRef.toJson := by
  induction rs with
  | nil => rw [TypeRef.listToJson, List.map_nil]
  | cons r rs ih => rw [TypeRef.listToJson, List.map_cons, ih]

mutual

theorem typeRef_toJson (place : String) : (r : TypeRef) → typeRef place r.toJson = .ok r
  | ⟨name, scope, assembly, []⟩ => by
    rw [TypeRef.toJson, typeRef]
    rfl
  | ⟨name, scope, assembly, argument :: rest⟩ => by
    have hitems := typeRefsFrom_listToJson (place ++ ".typeArguments") 0 (argument :: rest)
    rw [TypeRef.listToJson] at hitems
    rw [TypeRef.toJson, typeRef]
    simp [requireText, require, textOr, Json.display, typeArguments, hitems]

theorem typeRefsFrom_listToJson (place : String) (index : Nat) :
    (rs : List TypeRef) → typeRefsFrom place index (TypeRef.listToJson rs) = .ok rs
  | [] => by rw [TypeRef.listToJson, typeRefsFrom]
  | r :: rs => by
    rw [TypeRef.listToJson, typeRefsFrom, typeRef_toJson, ok_bind, typeRefsFrom_listToJson]
    rfl

end

/-! ### Declarations, calls and suppressions -/

theorem typeDecl_toJson (place : String) (d : TypeDecl) : typeDecl place d.toJson = .ok d := by
  have hinterfaces := each_map typeRef_toJson (place ++ ".interfaces") d.interfaces
  have hbase := optional_map typeRef_toJson (place ++ ".baseType") d.baseType
  have hspan := span_toJson (place ++ ".span") d.span
  simp [typeDecl, TypeDecl.toJson, asObject, requireText, require, textOr, flagOr, itemsOf, choose, spanOf,
    find?_label_typeKind, find?_label_accessibility, present?_cons_of_ne, present?_optionalField, hinterfaces, hbase,
    hspan, Json.display, Json.truthy, map_display_str, -List.map_map]

theorem parameter_toJson (place : String) (x : Parameter) : parameter place x.toJson = .ok x := by
  have htype := optional_map typeRef_toJson (place ++ ".type") x.type
  simp [parameter, Parameter.toJson, asObject, requireText, require, flagOr, present?_cons_of_ne,
    present?_optionalField, htype, Json.truthy]

theorem method_toJson (place : String) (m : Method) : method place m.toJson = .ok m := by
  have hparameters := each_map parameter_toJson (place ++ ".parameters") m.parameters
  have hcontaining := typeRef_toJson (place ++ ".containingType") m.containingType
  have harguments := typeRefsFrom_listToJson (place ++ ".typeArguments") 0 m.typeArguments
  rw [listToJson_eq_map] at harguments
  simp [method, Method.toJson, asObject, requireText, require, flagOr, itemsOf, typeArguments, hparameters,
    hcontaining, harguments, Json.truthy]

theorem argument_toJson (place : String) (a : Argument) : argument place a.toJson = .ok a := by
  have hspan := optional_map span_toJson (place ++ ".span") a.span
  simp [argument, Argument.toJson, asObject, textOr, choose, find?_label_argumentKind, hspan, Json.display]

theorem invocation_toJson (place : String) (call : Invocation) : invocation place call.toJson = .ok call := by
  have harguments := each_map argument_toJson (place ++ ".arguments") call.arguments
  have htarget := method_toJson (place ++ ".target") call.target
  have hspan := span_toJson (place ++ ".span") call.span
  have hcontaining := optional_map typeRef_toJson (place ++ ".containingType") call.containingType
  simp [invocation, Invocation.toJson, asObject, require, itemsOf, spanOf, present?_cons_of_ne, present?_optionalField,
    harguments, htarget, hspan, hcontaining]

theorem suppression_toJson (place : String) (mark : SuppressionMark) :
    suppression place mark.toJson = .ok mark := by
  simp [suppression, SuppressionMark.toJson, asObject, requireText, require, textOr, integerOr, Json.display,
    Json.toInteger, Except.mapError]

theorem program_toJson (defaultName : String) (p : Program) : program defaultName p.toJson = .ok p := by
  have htypes := each_map typeDecl_toJson "types" p.types
  have hinvocations := each_map invocation_toJson "invocations" p.invocations
  have hsuppressions := each_map suppression_toJson "suppressions" p.suppressions
  simp [program, Program.toJson, asObject, textOr, itemsOf, htypes, hinvocations, hsuppressions, Json.display]

/-! ### Loading again -/

/-- The dump that is written for the program in a dump. -/
def normalize (defaultName : String) (dump : Json) : Decoded Json := (program defaultName dump).map Program.toJson

/-- Every program is decoded from its own encoding. So loading, writing and loading once more comes to loading, with the
same faults, and a dump that was written from a loaded one is written the same again. -/
theorem decoding_undoes_encoding :
    (∀ (p : Program) (defaultName : String), program defaultName p.toJson = .ok p)
      ∧ (∀ (dump : Json) (name name' : String),
        (program name dump >>= fun p => program name' p.toJson) = program name dump)
      ∧ ∀ (dump : Json) (name name' : String), (normalize name dump >>= normalize name') = normalize name dump := by
  refine ⟨fun p defaultName => program_toJson defaultName p, fun dump name name' => ?_, fun dump name name' => ?_⟩
  · cases program name dump with
    | error fault => rfl
    | ok p => exact program_toJson name' p
  · rw [normalize]
    cases program name dump with
    | error fault => rfl
    | ok p =>
      change normalize name' p.toJson = .ok p.toJson
      rw [normalize, program_toJson]
      rfl

end Snapshot

end Mediation
