/-!
# Classes of characters

A class of characters given by ranges of code points. The tables of this library are such lists; they are
data of the Unicode character database, version 14.
-/

namespace Mediation

/-- Ranges of code points, both ends included. -/
abbrev CodeRanges := List (Nat × Nat)

/-- Whether the code point of `c` lies in one of the ranges. -/
def CodeRanges.contains (ranges : CodeRanges) (c : Char) : Bool :=
  ranges.any fun r => r.1 ≤ c.toNat && c.toNat ≤ r.2

end Mediation
