import Mediation.Symbol.Program
import Mediation.Table

/-!
# Looking up declarations

Two indexes over the declarations of a program: by identity, where the first of several equal declarations
counts, and by metadata name, where all of them are kept.
-/

namespace Mediation

/-- The indexes over a list of declarations. -/
structure SymbolTable where
  byKey : Table DefinitionKey TypeDecl
  byName : Table String (List TypeDecl)

namespace SymbolTable

def empty : SymbolTable := ⟨.empty, .empty⟩

def add (t : SymbolTable) (d : TypeDecl) : SymbolTable where
  byKey := t.byKey.insertNew d.key d
  byName := t.byName.alter d.metadataName fun found => found.getD [] ++ [d]

def ofDecls (decls : List TypeDecl) : SymbolTable := decls.foldl add empty

/-- The declaration with the given identity. -/
def find? (t : SymbolTable) (key : DefinitionKey) : Option TypeDecl := t.byKey.get? key

/-- The only declaration with the given metadata name; none if the name is ambiguous. -/
def findUnique? (t : SymbolTable) (name : String) : Option TypeDecl :=
  match t.byName.get? name with
  | some [d] => some d
  | _ => none

/-- The declaration with a metadata name, in the given assembly or else in any. -/
def findByName? (t : SymbolTable) (name : String) (assembly : Option String) : Option TypeDecl :=
  match assembly with
  | some assembly => t.find? ⟨name, assembly⟩
  | none => t.findUnique? name

/-- The declaration that a reference means. A reference without an assembly may also mean the only
declaration with its metadata name. -/
def resolve (t : SymbolTable) (r : TypeRef) : Option TypeDecl :=
  match t.find? r.key with
  | some d => some d
  | none => if r.assembly = "" then t.findUnique? r.metadataName else none

end SymbolTable

namespace Program

def symbols (p : Program) : SymbolTable := .ofDecls p.types

/-- The declaration that a reference means in a program. -/
def resolve (p : Program) (r : TypeRef) : Option TypeDecl := p.symbols.resolve r

end Program

end Mediation
