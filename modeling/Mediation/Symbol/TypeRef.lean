import Mediation.Symbol.Name
import Mediation.Text.Affix

/-!
# Type references

A reference names a type and the type arguments it is constructed with. The arguments count towards its
identity by their number only.
-/

namespace Mediation

/-- A reference to a type; `scope` is its namespace. -/
structure TypeRef where
  name : String
  scope : String := ""
  assembly : String := ""
  arguments : List TypeRef := []
  deriving Inhabited

namespace TypeRef

mutual

def decEq : (r s : TypeRef) → Decidable (r = s)
  | ⟨name, scope, assembly, arguments⟩, ⟨name', scope', assembly', arguments'⟩ =>
    if h : name = name' ∧ scope = scope' ∧ assembly = assembly' then
      match decEqList arguments arguments' with
      | .isTrue h' => .isTrue (by simp [h, h'])
      | .isFalse h' => .isFalse (by simp [h'])
    else .isFalse (by simpa using fun a b c => absurd ⟨a, b, c⟩ h)

def decEqList : (rs ss : List TypeRef) → Decidable (rs = ss)
  | [], [] => .isTrue rfl
  | [], _ :: _ => .isFalse (by simp)
  | _ :: _, [] => .isFalse (by simp)
  | r :: rs, s :: ss =>
    match decEq r s, decEqList rs ss with
    | .isTrue h, .isTrue h' => .isTrue (by simp [h, h'])
    | .isFalse h, _ => .isFalse (by simp [h])
    | _, .isFalse h => .isFalse (by simp [h])

end

instance : DecidableEq TypeRef := decEq

def arity (r : TypeRef) : Nat := r.arguments.length

def metadataName (r : TypeRef) : String := Mediation.metadataName r.scope r.name r.arity

def key (r : TypeRef) : DefinitionKey := ⟨r.metadataName, r.assembly⟩

mutual

/-- The reference as it is written in source. -/
def label : TypeRef → String
  | ⟨name, scope, _, []⟩ => qualifiedName scope name
  | ⟨name, scope, _, argument :: rest⟩ =>
    qualifiedName scope name ++ "<" ++ Text.join ", " (argument.label :: labels rest) ++ ">"

def labels : List TypeRef → List String
  | [] => []
  | r :: rs => r.label :: labels rs

end

end TypeRef

end Mediation
