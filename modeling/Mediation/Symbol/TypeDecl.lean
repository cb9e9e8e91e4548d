import Mediation.Symbol.Span
import Mediation.Symbol.TypeRef

/-!
# Type declarations

Named types, declared in source or imported from a library.
-/

namespace Mediation

/-- The kinds of named types. -/
inductive TypeKind where
  | classType
  | structType
  | recordType
  | interfaceType
  | enumType
  | delegateType
  deriving DecidableEq, Inhabited

namespace TypeKind

def all : List TypeKind :=
  [.classType, .structType, .recordType, .interfaceType, .enumType, .delegateType]

def label : TypeKind → String
  | .classType => "class"
  | .structType => "struct"
  | .recordType => "record"
  | .interfaceType => "interface"
  | .enumType => "enum"
  | .delegateType => "delegate"

/-- Whether types of this kind have member bodies. -/
def hasBody : TypeKind → Bool
  | .classType | .structType | .recordType => true
  | .interfaceType | .enumType | .delegateType => false

end TypeKind

/-- From where a type may be used. -/
inductive Accessibility where
  | publicAccess
  | internalAccess
  | protectedAccess
  | protectedInternalAccess
  | privateProtectedAccess
  | privateAccess
  deriving DecidableEq, Inhabited

namespace Accessibility

def all : List Accessibility :=
  [.publicAccess, .internalAccess, .protectedAccess, .protectedInternalAccess, .privateProtectedAccess,
    .privateAccess]

def label : Accessibility → String
  | .publicAccess => "public"
  | .internalAccess => "internal"
  | .protectedAccess => "protected"
  | .protectedInternalAccess => "protected internal"
  | .privateProtectedAccess => "private protected"
  | .privateAccess => "private"

end Accessibility

/-- A named type. Its span is that of its name, and `inSource` tells it from a type of a library. -/
structure TypeDecl where
  name : String
  scope : String := ""
  assembly : String := ""
  kind : TypeKind := .classType
  typeParameters : List String := []
  accessibility : Accessibility := .internalAccess
  isAbstract : Bool := false
  baseType : Option TypeRef := none
  interfaces : List TypeRef := []
  span : Span := {}
  inSource : Bool := true
  deriving DecidableEq, Inhabited

namespace TypeDecl

def metadataName (d : TypeDecl) : String := Mediation.metadataName d.scope d.name d.typeParameters.length

def key (d : TypeDecl) : DefinitionKey := ⟨d.metadataName, d.assembly⟩

/-- Whether the declaration can be instantiated: it has a body and is not abstract. -/
def isConcrete (d : TypeDecl) : Bool := d.kind.hasBody && !d.isAbstract

/-- A reference by the simple name of the declaration, without type arguments. -/
def ref (d : TypeDecl) : TypeRef := { name := d.name, scope := d.scope, assembly := d.assembly }

end TypeDecl

end Mediation
