import Mediation.Proofs.JsonRoundTrip
import Mediation.Proofs.SnapshotFaults
import Mediation.Proofs.SnapshotRoundTrip
import Mediation.Proofs.Utf8

/-!
# Dumps in files

A program is loaded from a file that holds its encoding as JSON text. Between the program and the octets lie the
encoding as a value, the text of the value and the octets of the text, and loading undoes them one by one: the text is
ASCII without line breaks, and the value has no floating-point numbers and no key twice.
-/

namespace Mediation

/-! ### Octets -/

namespace Text

/-- The octets of a text in ASCII. -/
def octets (cs : List Char) : List UInt8 := cs.map fun c => c.toNat.toUInt8

theorem decode_octets {cs : List Char} (h : ∀ c ∈ cs, c.toNat < 0x80) : Utf8.decode (octets cs) = .ok cs := by
  rw [Utf8.decode_eq_ok_iff]
  induction cs with
  | nil => rfl
  | cons c cs ih =>
    rw [List.forall_mem_cons] at h
    rw [List.flatMap_cons, Utf8.utf8EncodeChar_of_lt h.1, ← ih h.2]
    rfl

theorem unifyBreaks_eq_self {cs : List Char} (h : ∀ c ∈ cs, c ≠ '\r') : unifyBreaks cs = cs := by
  induction cs with
  | nil => rfl
  | cons c cs ih =>
    rw [List.forall_mem_cons] at h
    rw [unifyBreaks, ih h.2]
    · rintro cs' rfl
      exact absurd rfl h.1
    · exact h.1

end Text

theorem Snapshot.holdsJson_of_plain {value : Json} (hplain : value.Plain) {files : FileReader} {path : Path}
    (hfile : files path = .ok (Text.octets value.writeChars)) : HoldsJson files path value := by
  have hprintable := Json.printableAscii_writeChars hplain
  refine ⟨_, value.writeChars, hfile, Text.decode_octets fun c hc => ?_, ?_⟩
  · have hc := (hprintable c hc).2
    omega
  · rw [Text.unifyBreaks_eq_self, Json.read_writeChars hplain]
    rintro c hc rfl
    exact absurd (hprintable _ hc) (by decide)

/-! ### Encodings -/

namespace Json

theorem Plain.map {α : Type} {encode : α → Json} (h : ∀ x, (encode x).Plain) (xs : List α) :
    (Json.arr (xs.map encode)).Plain := by
  refine .arr fun item hitem => ?_
  obtain ⟨x, -, rfl⟩ := List.mem_map.mp hitem
  exact h x

theorem Plain.obj_append_optionalField {α : Type} {encode : α → Json} (h : ∀ x, (encode x).Plain)
    {fields : List (String × Json)} (hfields : (Json.obj fields).Plain) {key : String}
    (hkey : key ∉ fields.map Prod.fst) (value : Option α) :
    (Json.obj (fields ++ optionalField key encode value)).Plain := by
  cases hfields with
  | obj hkeys hfields =>
    cases value with
    | none => simpa [optionalField] using Plain.obj hkeys hfields
    | some x =>
      refine .obj ?_ fun field hfield => ?_
      · rw [List.map_append, List.nodup_append]
        refine ⟨hkeys, by simp [optionalField], fun other hother name hname => ?_⟩
        obtain rfl : name = key := by simpa [optionalField] using hname
        exact fun heq => hkey (heq ▸ hother)
      · rcases List.mem_append.mp hfield with hfield | hfield
        · exact hfields field hfield
        · obtain rfl := List.mem_singleton.mp hfield
          exact h x

end Json

open Json (Plain)

theorem Span.plain_toJson (s : Span) : s.toJson.Plain :=
  .obj (by simp) (by simp [Plain.str, Plain.int])

mutual

theorem TypeRef.plain_toJson : (r : TypeRef) → r.toJson.Plain
  | ⟨name, scope, assembly, []⟩ => by
    rw [TypeRef.toJson]
    exact .obj (by simp) (by simp [Plain.str])
  | ⟨name, scope, assembly, argument :: rest⟩ => by
    have hargument := TypeRef.plain_toJson argument
    have hrest := TypeRef.plain_listToJson rest
    rw [TypeRef.toJson]
    refine .obj (by simp) ?_
    simp only [List.forall_mem_cons, Plain.str, true_and]
    exact ⟨.arr (List.forall_mem_cons.mpr ⟨hargument, hrest⟩), by simp⟩

theorem TypeRef.plain_listToJson : (rs : List TypeRef) → ∀ item ∈ TypeRef.listToJson rs, item.Plain
  | [] => by simp [TypeRef.listToJson]
  | r :: rs => by
    rw [TypeRef.listToJson, List.forall_mem_cons]
    exact ⟨TypeRef.plain_toJson r, TypeRef.plain_listToJson rs⟩

end

theorem TypeDecl.plain_toJson (d : TypeDecl) : d.toJson.Plain := by
  refine .obj_append_optionalField TypeRef.plain_toJson (.obj (by simp) ?_) (by simp) d.baseType
  simp [Plain.str, Plain.bool, Plain.map Plain.str, Plain.map TypeRef.plain_toJson, d.span.plain_toJson]

theorem Parameter.plain_toJson (p : Parameter) : p.toJson.Plain := by
  refine .obj_append_optionalField TypeRef.plain_toJson (.obj (by simp) ?_) (by simp) p.type
  simp [Plain.str, Plain.bool]

theorem Method.plain_toJson (m : Method) : m.toJson.Plain := by
  refine .obj (by simp) ?_
  simp [Plain.str, Plain.bool, Plain.map Parameter.plain_toJson, Plain.map TypeRef.plain_toJson,
    m.containingType.plain_toJson]

theorem Argument.plain_toJson (a : Argument) : a.toJson.Plain := by
  refine .obj_append_optionalField Span.plain_toJson (.obj (by simp) ?_) (by simp) a.span
  simp [Plain.str]

theorem Invocation.plain_toJson (call : Invocation) : call.toJson.Plain := by
  refine .obj_append_optionalField TypeRef.plain_toJson (.obj (by simp) ?_) (by simp) call.containingType
  simp [Plain.map Argument.plain_toJson, call.target.plain_toJson, call.span.plain_toJson]

theorem SuppressionMark.plain_toJson (mark : SuppressionMark) : mark.toJson.Plain :=
  .obj (by simp) (by simp [Plain.str, Plain.int])

theorem Program.plain_toJson (p : Program) : p.toJson.Plain := by
  refine .obj (by simp) ?_
  simp [Plain.str, Plain.map TypeDecl.plain_toJson, Plain.map Invocation.plain_toJson,
    Plain.map SuppressionMark.plain_toJson]

/-- A program is loaded from the file that its encoding is written to. -/
theorem Snapshot.load_written (p : Program) {files : FileReader} {path : Path}
    (hfile : files path = .ok (Text.octets p.toJson.writeChars)) : load files path = .ok p := by
  rw [load_of_holdsJson (holdsJson_of_plain p.plain_toJson hfile), program_toJson]
  rfl

end Mediation
