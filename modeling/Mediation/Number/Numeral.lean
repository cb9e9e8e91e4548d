import Mediation.Text.Blank
import Mediation.Text.Digit

/-!
# Integers written in text

A numeral is an optional sign and decimal digits of any script, with single underscores between digits and
blanks around it.
-/

namespace Mediation.Numeral

/-- The blanks around a numeral: those of ASCII that move the cursor, and every blank beyond ASCII. -/
def isMargin (c : Char) : Bool :=
  if c.toNat < 0x7f then c = ' ' || ('\t' ≤ c && c ≤ '\r') else Text.isBlank c

def trim (cs : List Char) : List Char :=
  ((cs.dropWhile isMargin).reverse.dropWhile isMargin).reverse

/-- Reads the rest of a row of digits whose value so far is `value`. -/
def digitsFrom (value : Nat) : List Char → Option Nat
  | [] => some value
  | '_' :: c :: cs => do digitsFrom (value * 10 + (← Text.digitValue? c)) cs
  | c :: cs => do digitsFrom (value * 10 + (← Text.digitValue? c)) cs

/-- Reads a row of digits. -/
def digits? : List Char → Option Nat
  | [] => none
  | c :: cs => do digitsFrom (← Text.digitValue? c) cs

def parse? (s : String) : Option Int :=
  match trim s.toList with
  | '-' :: cs => (digits? cs).map fun n => -(n : Int)
  | '+' :: cs => (digits? cs).map fun n => (n : Int)
  | cs => (digits? cs).map fun n => (n : Int)

end Mediation.Numeral
