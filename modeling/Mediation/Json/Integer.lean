import Mediation.Json.Value
import Mediation.Number.Numeral

/-!
# Integers from JSON values

Numbers, truth values and numerals in text stand for integers; a floating-point number loses its fraction.
-/

namespace Mediation.Json

inductive IntegerFault where
  | notNumeral (text : String)
  | wrongKind (kind : String)
  | notANumber
  | infinite
  deriving DecidableEq

/-- How much of a text that is no numeral a fault shows, in characters of its quoted form. -/
def IntegerFault.shownLength : Nat := 200

/-- The wording of a fault. A long text is cut off without a mark, its closing quote included. -/
def IntegerFault.message : IntegerFault → String
  | .notNumeral text =>
    "invalid literal for int() with base 10: " ++ String.ofList ((Text.quoted text).toList.take shownLength)
  | .wrongKind kind =>
    "int() argument must be a string, a bytes-like object or a real number, not '" ++ kind ++ "'"
  | .notANumber => "cannot convert float NaN to integer"
  | .infinite => "cannot convert float infinity to integer"

/-- The integer a value stands for. -/
def toInteger : Json → Except IntegerFault Int
  | .int value => .ok value
  | .bool value => .ok (if value then 1 else 0)
  | .float .nan => .error .notANumber
  | .float (.infinity _) => .error .infinite
  | .float (.finite negative mantissa exponent) =>
    let whole := (Binary64.magnitude mantissa exponent).floor
    .ok (if negative then -whole else whole)
  | .str text =>
    match Numeral.parse? text with
    | some value => .ok value
    | none => .error (.notNumeral text)
  | value => .error (.wrongKind value.kindName)

end Mediation.Json
