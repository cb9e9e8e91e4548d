import Mediation.Number.Rounding

/-!
# Floating-point numbers of 64 bits

The values of the binary format with 53 significant bits, in exact arithmetic. Every operation computes
with natural numbers and rounds once, to the nearest value and on a tie to the even mantissa.
-/

namespace Mediation

/-- A floating-point value. A finite one is `mantissa · 2 ^ exponent` up to the sign. -/
inductive Binary64 where
  | nan
  | infinity (negative : Bool)
  | finite (negative : Bool) (mantissa : Nat) (exponent : Int)
  deriving DecidableEq, Inhabited

namespace Binary64

def minExponent : Int := -1074

def maxExponent : Int := 971

/-- The least mantissa of full length, `2 ^ 52`. -/
def leastFull : Nat := 0x10000000000000

/-- Zero with a sign. -/
def zero (negative : Bool) : Binary64 := .finite negative 0 minExponent

/-- The value nearest to a quotient. -/
def ofRatio (negative : Bool) (r : Ratio) : Binary64 :=
  if r.num = 0 then zero negative
  else
    let exponent := if r.log2 - 52 ≤ minExponent then minExponent else r.log2 - 52
    let mantissa := (r.scale 2 (-exponent)).round
    if mantissa = 2 * leastFull then
      if maxExponent ≤ exponent then .infinity negative else .finite negative leastFull (exponent + 1)
    else if maxExponent < exponent then .infinity negative
    else .finite negative mantissa exponent

/-- The value nearest to `digits · 10 ^ exponent`. -/
def ofDecimal (negative : Bool) (digits : Nat) (exponent : Int) : Binary64 :=
  let magnitude := exponent + (Nat.toDigits 10 digits).length
  if digits = 0 then zero negative
  else if 400 < magnitude then .infinity negative
  else if magnitude < -400 then zero negative
  else ofRatio negative ((Ratio.mk digits 1).scale 10 exponent)

/-- The value nearest to an integer. -/
def ofInt (n : Int) : Binary64 := ofRatio (n < 0) ⟨n.natAbs, 1⟩

/-- `mantissa · 2 ^ exponent` as a quotient. -/
def magnitude (mantissa : Nat) (exponent : Int) : Ratio := (Ratio.mk mantissa 1).scale 2 exponent

/-- Whether the value is zero, of either sign. -/
def isZero : Binary64 → Bool
  | .finite _ mantissa _ => mantissa = 0
  | _ => false

private def signed (negative : Bool) (n : Nat) : Int := if negative then -n else n

def add : Binary64 → Binary64 → Binary64
  | .nan, _ => .nan
  | _, .nan => .nan
  | .infinity a, .infinity b => if a = b then .infinity a else .nan
  | .infinity a, .finite .. => .infinity a
  | .finite .., .infinity b => .infinity b
  | .finite a m p, .finite b n q =>
    let exponent := if p ≤ q then p else q
    let sum := signed a (m * Nat.pow 2 (p - exponent).toNat) + signed b (n * Nat.pow 2 (q - exponent).toNat)
    if sum = 0 then zero (a && b) else ofRatio (sum < 0) (magnitude sum.natAbs exponent)

end Binary64

end Mediation
