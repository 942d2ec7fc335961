/-! # Sets of code points

    A character property is kept as a list of inclusive code point ranges; a code point
    has the property when one of the ranges holds it. -/

namespace DogCourier

/-- A set of code points given by inclusive ranges. -/
abbrev CodeRanges := List (Nat × Nat)

/-- One of the ranges holds `n`. -/
def CodeRanges.contains (rs : CodeRanges) (n : Nat) : Bool :=
  rs.any fun (lo, hi) => lo ≤ n && n ≤ hi

end DogCourier
