/-!
# Rounding of quotients

Division to the nearest whole number, and quotients scaled by powers of two and ten.
-/

namespace Mediation

/-- A quotient of natural numbers; the denominator is meant to be positive. -/
structure Ratio where
  num : Nat
  den : Nat

namespace Ratio

/-- The whole number nearest to the quotient; a half goes to the even neighbour. -/
def round (r : Ratio) : Nat :=
  let q := r.num / r.den
  let rest := 2 * (r.num % r.den)
  if r.den < rest ∨ (rest = r.den ∧ q % 2 = 1) then q + 1 else q

def floor (r : Ratio) : Nat := r.num / r.den

/-- The quotient times `base ^ power`. -/
def scale (r : Ratio) (base : Nat) (power : Int) : Ratio :=
  if 0 ≤ power then ⟨r.num * base.pow power.toNat, r.den⟩
  else ⟨r.num, r.den * base.pow (-power).toNat⟩

/-- Whether the quotient is at least `base ^ power`. -/
def reaches (r : Ratio) (base : Nat) (power : Int) : Bool :=
  let scaled := r.scale base (-power)
  scaled.den ≤ scaled.num

/-- The greatest `p` with `2 ^ p` at most the quotient, which is positive. -/
def log2 (r : Ratio) : Int :=
  let guess : Int := (r.num.log2 : Int) - r.den.log2
  if r.reaches 2 guess then guess else guess - 1

/-- The greatest `p` with `10 ^ p` at most the quotient, which is positive. -/
def log10 (r : Ratio) : Int :=
  let guess : Int := (r.log2 * 30103) / 100000
  if r.reaches 10 (guess + 1) then guess + 1 else if r.reaches 10 guess then guess else guess - 1

end Ratio

end Mediation
