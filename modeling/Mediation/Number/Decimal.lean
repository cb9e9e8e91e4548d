import Mediation.Number.Binary64

/-!
# Decimal text of floating-point numbers

Two texts of a value: the one with the fewest digits that reads back, and the one with a fixed count of
decimal places.
-/

namespace Mediation.Binary64

/-- The number `digits · 10 ^ exponent`. -/
structure Decimal where
  digits : Nat
  exponent : Int

/-- A decimal with `count` digits that reads back as a positive finite value. Only the two neighbours of the
value can, and the nearer one is preferred, on a tie the even one. -/
def withDigits? (mantissa : Nat) (exponent : Int) (count : Nat) : Option Decimal :=
  let value := magnitude mantissa exponent
  let unit := value.log10 + 1 - count
  let grid := value.scale 10 (-unit)
  let readsBack (digits : Nat) : Bool := ofDecimal false digits unit = .finite false mantissa exponent
  let below := grid.floor
  if readsBack grid.round then some ⟨grid.round, unit⟩
  else if readsBack below then some ⟨below, unit⟩
  else if readsBack (below + 1) then some ⟨below + 1, unit⟩
  else none

/-- The decimal with the fewest digits that reads back as a positive finite value. Seventeen digits
always do. -/
def shortest (mantissa : Nat) (exponent : Int) : Decimal :=
  ((List.range 17).findSome? fun n => withDigits? mantissa exponent (n + 1)).getD ⟨0, 0⟩

/-- The text of the number `0.digits · 10 ^ point`: positional while `point` lies from -3 to 16, and beyond
that with an exponent of at least two digits. -/
def layout (digits : List Char) (point : Int) : List Char :=
  if -4 < point ∧ point ≤ 16 then
    if point ≤ 0 then '0' :: '.' :: List.replicate (-point).toNat '0' ++ digits
    else
      let whole := digits.take point.toNat
      let padding := List.replicate (point.toNat - digits.length) '0'
      let fraction := digits.drop point.toNat
      whole ++ padding ++ '.' :: (if fraction.isEmpty then ['0'] else fraction)
  else
    let power := point - 1
    let powerDigits := Nat.toDigits 10 power.natAbs
    let padded := List.replicate (2 - powerDigits.length) '0' ++ powerDigits
    let head := digits.take 1
    let fraction := digits.drop 1
    head ++ (if fraction.isEmpty then [] else '.' :: fraction)
      ++ 'e' :: (if power < 0 then '-' else '+') :: padded

private def dropTrailingZeros (digits : List Char) : List Char :=
  (digits.reverse.dropWhile (· = '0')).reverse

/-- The text of a value with the fewest digits that reads back. -/
def display : Binary64 → String
  | .nan => "nan"
  | .infinity negative => if negative then "-inf" else "inf"
  | .finite negative mantissa exponent =>
    let sign := if negative then ['-'] else []
    if mantissa = 0 then String.ofList (sign ++ ['0', '.', '0'])
    else
      let decimal := shortest mantissa exponent
      let digits := Nat.toDigits 10 decimal.digits
      String.ofList (sign ++ layout (dropTrailingZeros digits) (digits.length + decimal.exponent))

/-- The text of a value with `places` decimal places, at least one. -/
def fixed (places : Nat) : Binary64 → String
  | .nan => "nan"
  | .infinity negative => if negative then "-inf" else "inf"
  | .finite negative mantissa exponent =>
    let units := ((magnitude mantissa exponent).scale 10 places).round
    let digits := Nat.toDigits 10 units
    let padded := List.replicate (places + 1 - digits.length) '0' ++ digits
    let whole := padded.take (padded.length - places)
    let fraction := padded.drop (padded.length - places)
    String.ofList ((if negative then ['-'] else []) ++ whole ++ '.' :: fraction)

end Mediation.Binary64
