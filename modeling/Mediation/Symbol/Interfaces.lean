import Mediation.Symbol.Lookup

/-!
# Interfaces of a declaration

The interfaces that a declaration has itself, through its base types and through other interfaces. A walk
keeps a stack of declarations still to be expanded. It expands every identity at most once, so inheritance
may well be cyclic.
-/

namespace Mediation

/-- A walk through the declarations above one declaration. -/
structure Walk where
  /-- The interfaces met so far, in the order in which they were met. -/
  met : List TypeRef
  /-- The identities of the declarations that are expanded or wait for it. -/
  visited : List DefinitionKey
  /-- The declarations that wait to be expanded, the next one first. -/
  pending : List TypeDecl

namespace Walk

def start (d : TypeDecl) : Walk := ⟨[], [d.key], [d]⟩

/-- Puts what a reference means on the stack, unless it has been there before. -/
def enter (symbols : SymbolTable) (w : Walk) (r : TypeRef) : Walk :=
  match symbols.resolve r with
  | none => w
  | some d =>
    if d.key ∈ w.visited then w else { w with visited := d.key :: w.visited, pending := d :: w.pending }

/-- Notes an interface, unless it has been met before. -/
def meet (w : Walk) (r : TypeRef) : Walk :=
  if r ∈ w.met then w else { w with met := w.met ++ [r] }

/-- Enters the base type of a declaration, then meets and enters its interfaces. -/
def expand (symbols : SymbolTable) (w : Walk) (d : TypeDecl) : Walk :=
  d.interfaces.foldl (fun w r => (w.meet r).enter symbols r) (d.baseType.toList.foldl (enter symbols) w)

/-- Expands the declarations on the stack, `rounds` of them at most. -/
def run (symbols : SymbolTable) : (rounds : Nat) → Walk → Walk
  | 0, w => w
  | rounds + 1, w =>
    match w.pending with
    | [] => w
    | d :: rest => run symbols rounds (expand symbols { w with pending := rest } d)

end Walk

namespace SymbolTable

/-- All interfaces of a declaration. Beside `d` only declarations of the table are entered, each identity
once, so the walk ends within as many rounds as the table has identities, and one for `d`. -/
def interfaces (symbols : SymbolTable) (d : TypeDecl) : List TypeRef :=
  (Walk.run symbols (symbols.byKey.entries.length + 1) (.start d)).met

end SymbolTable

end Mediation
