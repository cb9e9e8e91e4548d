import Mediation.Number.Decimal

/-!
# Amounts

Numbers of a statistic: whole ones are exact, and a sum with a floating-point number is rounded. A whole number
beyond the range of floating-point numbers can only be added to whole numbers, and has no text.
-/

namespace Mediation

/-- A whole or floating-point number. -/
inductive Amount where
  | whole (value : Int)
  | float (value : Binary64)
  deriving DecidableEq, Inhabited

namespace Amount

/-- Why an operation on amounts has no result. -/
inductive Fault where
  | tooLarge
  deriving DecidableEq

def Fault.message : Fault → String
  | .tooLarge => "int too large to convert to float"

/-- The nearest floating-point number. -/
def toBinary64 : Amount → Except Fault Binary64
  | .float value => .ok value
  | .whole value =>
    match Binary64.ofInt value with
    | .infinity _ => .error .tooLarge
    | nearest => .ok nearest

def add : Amount → Amount → Except Fault Amount
  | .whole a, .whole b => .ok (.whole (a + b))
  | a, b => do return .float ((← a.toBinary64).add (← b.toBinary64))

/-- The text with one decimal place. -/
def display (a : Amount) : Except Fault String := do return (← a.toBinary64).fixed 1

end Amount

end Mediation
