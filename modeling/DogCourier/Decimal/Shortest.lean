/-! # Shortest and fixed decimal digits of a double

    A positive finite double is `m · 2^e`. The reals that round to it form an interval
    around it, whose ends belong to it exactly when `m` is even (a tie rounds to the even
    significand). The shortest decimal is found on the coarsest grid `10^k` that has a
    point in that interval; of the grid points there, the one nearest the value is
    taken, and an exact tie is broken as the caller's `Tie` says. All comparisons are
    exact `Nat` arithmetic after scaling both sides to integers.

    `fixedDigits` rounds the exact value to a given number of places, a half going to
    the even neighbour. -/

namespace DogCourier

/-- How an exact tie between the two grid points nearest a value is broken. -/
inductive Tie where
  /-- The even digit string wins. -/
  | toEven
  /-- The point farther from zero wins. -/
  | up
  deriving DecidableEq, Inhabited

/-- A decimal number `digits · 10^exponent`. -/
structure Decimal where
  digits : Nat
  exponent : Int
  deriving DecidableEq, Inhabited

namespace Decimal

/-- The factor that puts `d · 10^k` on the integer scale shared with `x · 2^s`. -/
def gridScale (k s : Int) : Nat := Nat.pow 10 k.toNat * Nat.pow 2 (-s).toNat

/-- `x · 2^s` on the integer scale shared with the grid `10^k`. -/
def onScale (x : Nat) (k s : Int) : Nat := x * Nat.pow 2 s.toNat * Nat.pow 10 (-k).toNat

/-- The least and greatest digit strings `d` with `d · 10^k` between `lo · 2^s` and
`hi · 2^s`, the ends counted when `inclusive`. The range is empty when the first
exceeds the second. -/
def window (lo hi : Nat) (inclusive : Bool) (k s : Int) : Nat × Nat :=
  let a := gridScale k s
  let l := onScale lo k s
  let u := onScale hi k s
  let dLo := if inclusive then (l + a - 1) / a else l / a + 1
  let dHi := if inclusive then u / a else (u - 1) / a
  (dLo, dHi)

/-- Removes trailing zero digits, raising the exponent for each. -/
def trim : Nat → Nat → Int → Decimal
  | 0, d, k => ⟨d, k⟩
  | fuel + 1, d, k => if d ≠ 0 ∧ d % 10 = 0 then trim fuel (d / 10) (k + 1) else ⟨d, k⟩

/-- Of the grid points `d0 = ⌊v / 10^k⌋` and `d0 + 1` that lie in the window, the one
nearest `v · 2^s`; a tie is broken by `tie`. -/
def nearest (tie : Tie) (v : Nat) (k s : Int) (dLo dHi : Nat) : Nat :=
  let a := gridScale k s
  let w := onScale v k s
  let d0 := w / a
  let r := w % a
  if d0 < dLo then d0 + 1
  else if d0 + 1 > dHi then d0
  else if r = 0 then d0
  else if 2 * r < a then d0
  else if 2 * r > a then d0 + 1
  else match tie with
    | .toEven => if d0 % 2 = 0 then d0 else d0 + 1
    | .up => d0 + 1

/-- Walks the grids from `10^k` downward to the first one with a point between
`lo · 2^s` and `hi · 2^s`, then takes the point nearest `v · 2^s`. -/
def search (tie : Tie) (v lo hi : Nat) (inclusive : Bool) (s : Int) : Nat → Int → Decimal
  | 0, k => ⟨v, k⟩
  | fuel + 1, k =>
    let (dLo, dHi) := window lo hi inclusive k s
    if dLo ≤ dHi then trim 20 (nearest tie v k s dLo dHi) k
    else search tie v lo hi inclusive s fuel (k - 1)

/-- A grid exponent whose power of ten exceeds every double below `2^(e + 53)`. -/
def startExponent (e : Int) : Int := (e + 53) * 30103 / 100000 + 2

/-- The shortest decimal that reads back as `m · 2^e`, for a significand
`0 < m < 2^53`; the nearest such decimal when several have that length, two equally
near ones decided by `tie`. -/
def shortest (tie : Tie) (m : Nat) (e : Int) : Decimal :=
  let s := e - 2
  -- the lower neighbour is twice as close at the bottom of a binade
  let lo := if m = Nat.pow 2 52 ∧ e > -1074 then 4 * m - 1 else 4 * m - 2
  search tie (4 * m) lo (4 * m + 2) (m % 2 = 0) s 80 (startExponent e)

/-- `m · 2^e · 10^places` rounded to an integer, a half going to the even neighbour. -/
def fixedDigits (m : Nat) (e : Int) (places : Nat) : Nat :=
  if e ≥ 0 then m * Nat.pow 2 e.toNat * Nat.pow 10 places
  else
    let num := m * Nat.pow 10 places
    let den := Nat.pow 2 (-e).toNat
    let q := num / den
    let r := num % den
    if 2 * r > den ∨ (2 * r = den ∧ q % 2 = 1) then q + 1 else q

end Decimal

end DogCourier
