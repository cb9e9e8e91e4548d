import Mediation.Json.Value
import Mediation.Symbol.Program

/-!
# Snapshots to JSON

Encoding of a program as a dump. Optional parts that are absent have no field.
-/

namespace Mediation

/-- A field that is left out when its value is absent. -/
def Json.optionalField {α : Type} (key : String) (encode : α → Json) : Option α → List (String × Json)
  | none => []
  | some value => [(key, encode value)]

def Span.toJson (s : Span) : Json :=
  .obj [("file", .str s.file), ("startLine", .int s.startLine), ("startColumn", .int s.startColumn),
    ("endLine", .int s.endLine), ("endColumn", .int s.endColumn)]

namespace TypeRef

mutual

def toJson : TypeRef → Json
  | ⟨name, scope, assembly, []⟩ =>
    .obj [("name", .str name), ("namespace", .str scope), ("assembly", .str assembly)]
  | ⟨name, scope, assembly, argument :: rest⟩ =>
    .obj [("name", .str name), ("namespace", .str scope), ("assembly", .str assembly),
      ("typeArguments", .arr (argument.toJson :: listToJson rest))]

def listToJson : List TypeRef → List Json
  | [] => []
  | r :: rs => r.toJson :: listToJson rs

end

end TypeRef

def TypeDecl.toJson (d : TypeDecl) : Json :=
  .obj ([("name", .str d.name), ("namespace", .str d.scope), ("assembly", .str d.assembly),
    ("kind", .str d.kind.label), ("typeParameters", .arr (d.typeParameters.map .str)),
    ("accessibility", .str d.accessibility.label), ("isAbstract", .bool d.isAbstract),
    ("interfaces", .arr (d.interfaces.map TypeRef.toJson)), ("span", d.span.toJson),
    ("inSource", .bool d.inSource)] ++ Json.optionalField "baseType" TypeRef.toJson d.baseType)

def Parameter.toJson (p : Parameter) : Json :=
  .obj ([("name", .str p.name), ("hasDefault", .bool p.hasDefault)]
    ++ Json.optionalField "type" TypeRef.toJson p.type)

def Method.toJson (m : Method) : Json :=
  .obj [("name", .str m.name), ("containingType", m.containingType.toJson),
    ("parameters", .arr (m.parameters.map Parameter.toJson)),
    ("typeArguments", .arr (m.typeArguments.map TypeRef.toJson)), ("isStatic", .bool m.isStatic)]

def Argument.toJson (a : Argument) : Json :=
  .obj ([("parameter", .str a.parameter), ("kind", .str a.kind.label)]
    ++ Json.optionalField "span" Span.toJson a.span)

def Invocation.toJson (i : Invocation) : Json :=
  .obj ([("target", i.target.toJson), ("arguments", .arr (i.arguments.map Argument.toJson)),
    ("span", i.span.toJson)] ++ Json.optionalField "containingType" TypeRef.toJson i.containingType)

def SuppressionMark.toJson (s : SuppressionMark) : Json :=
  .obj [("ruleId", .str s.ruleId), ("file", .str s.file), ("line", .int s.line)]

def Program.toJson (p : Program) : Json :=
  .obj [("name", .str p.name), ("types", .arr (p.types.map TypeDecl.toJson)),
    ("invocations", .arr (p.invocations.map Invocation.toJson)),
    ("suppressions", .arr (p.suppressions.map SuppressionMark.toJson))]

end Mediation
