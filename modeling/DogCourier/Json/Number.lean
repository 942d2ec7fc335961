/-! # Reading decimal numbers into doubles

    A number's digits are gathered into a 64-bit significand (digits past what fits are
    dropped and only counted toward the exponent), and the double is then
    `significand` times or divided by a power of ten, each operand rounded to a double
    and the product or quotient rounded once more. This is not always the double
    nearest the decimal (`0.9999999999999999` reads as `1.0`), and it is the rule every
    number of a request and of a configuration is read with. A result too large to be
    finite is out of range. -/

namespace DogCourier

namespace Decimal

/-- The double nearest a natural number, a tie going to the even significand. The top
64 bits are kept with a sticky bit for everything below them, so the one rounding to
53 bits sees every discarded bit. -/
def natToFloat (n : Nat) : Float :=
  if n < Nat.pow 2 64 then n.toUInt64.toFloat
  else
    let s := n.log2 - 63
    let top := n >>> s
    let sticky := if n % Nat.pow 2 s = 0 then 0 else 1
    (top ||| sticky).toUInt64.toFloat.scaleB s

/-- The double nearest `10^k`. -/
def pow10 (k : Nat) : Float := natToFloat (Nat.pow 10 k)

/-- `significand · 10^exponent` by the reading rule, negated unless `positive`;
`none` when the result is out of range. -/
def readFloat (positive : Bool) (significand : UInt64) (exponent : Int) : Option Float :=
  let f := go significand.toFloat exponent 8
  f.map fun x => if positive then x else -x
where
  /-- Scales by a tabled power of ten, or first divides by `1e308` while the exponent
  is too small for the table. -/
  go (f : Float) (e : Int) : Nat → Option Float
    | 0 => some f
    | fuel + 1 =>
      if e.natAbs ≤ 308 then
        if e ≥ 0 then
          let g := f * pow10 e.natAbs
          if g.isInf then none else some g
        else some (f / pow10 e.natAbs)
      else if f == 0.0 then some f
      else if e ≥ 0 then none
      else go (f / pow10 308) (e + 308) fuel

end Decimal

end DogCourier
