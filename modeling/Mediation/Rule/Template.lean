/-!
# Message templates

A message of a rule is fixed text with numbered slots for what the rule is about.
-/

namespace Mediation

inductive Template.Piece where
  | text (content : String)
  | slot (index : Nat)
  deriving DecidableEq

abbrev Template := List Template.Piece

namespace Template

/-- The template as it is written down, with slots in braces. -/
def source : Template → String
  | [] => ""
  | .text content :: rest => content ++ source rest
  | .slot index :: rest => "\x7b" ++ toString index ++ "\x7d" ++ source rest

/-- The text with the slots filled from the arguments. A slot without an argument stays as it is written, and
arguments without a slot are left out. -/
def render (arguments : List String) : Template → String
  | [] => ""
  | .text content :: rest => content ++ render arguments rest
  | .slot index :: rest => arguments[index]?.getD (source [.slot index]) ++ render arguments rest

/-- The first slot without an argument. -/
def missing? (arguments : List String) : Template → Option Nat
  | [] => none
  | .text _ :: rest => missing? arguments rest
  | .slot index :: rest => if index < arguments.length then missing? arguments rest else some index

end Template

end Mediation
