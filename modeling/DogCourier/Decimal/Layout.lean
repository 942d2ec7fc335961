import DogCourier.Binary64.Basic
import DogCourier.Decimal.Shortest

/-! # Writing doubles as text

    Digits come from `Decimal.shortest`; a `Layout` decides the rest: how a tie between
    two equally near shortest decimals is broken, which magnitudes are written
    positionally, whether an integral value keeps `.0`, how the exponent is marked, and
    the words for NaN and infinity. `fixed` writes a given number of places
    after the point instead. -/

namespace DogCourier

/-- The choices a number format makes around its digits. -/
structure Layout where
  /-- How a tie between two equally near shortest decimals is broken. -/
  tie : Tie
  /-- Whether a value whose leading digit has decimal exponent `e` is written positionally. -/
  positional : Int → Bool
  /-- A positional integral value is written with a trailing `.0`. -/
  pointZero : Bool
  /-- A non-negative exponent is written with a plus sign. -/
  plusExponent : Bool
  nan : String
  infinity : String

namespace Layout

/-- Positional from `1e-5` up to below `1e16`, otherwise one leading digit and a signed
exponent (`1.8446744073709552e+19`); integral values keep `.0`; a tie goes to the even
digits. -/
def compact : Layout :=
  ⟨.toEven, fun e => decide (-5 ≤ e ∧ e < 16), true, true, "NaN", "inf"⟩

/-- Always positional with every digit written out (`1e300` is 301 digits), no `.0`; a
tie goes away from zero (`-8842147622.3828125` is `-8842147622.382813`). -/
def full : Layout :=
  ⟨.up, fun _ => true, false, false, "NaN", "inf"⟩

/-- The text of `n` zeros. -/
def zeros (n : Nat) : String := String.ofList (List.replicate n '0')

/-- Writes the digit string `s` (no trailing zeros) of value `s · 10^k`. -/
def place (L : Layout) (s : String) (k : Int) : String :=
  let n := s.length
  let lead : Int := k + n - 1
  if L.positional lead then
    if k ≥ 0 then
      s ++ zeros k.toNat ++ (if L.pointZero then ".0" else "")
    else if lead ≥ 0 then
      let cut := (lead + 1).toNat
      String.ofList (s.toList.take cut) ++ "." ++ String.ofList (s.toList.drop cut)
    else
      "0." ++ zeros (-lead - 1).toNat ++ s
  else
    let cs := s.toList
    let head := String.ofList (cs.take 1)
    let tail := String.ofList (cs.drop 1)
    let mantissa := if tail.isEmpty then head else head ++ "." ++ tail
    let sign := if lead < 0 then "-" else if L.plusExponent then "+" else ""
    mantissa ++ "e" ++ sign ++ toString lead.natAbs

/-- The text of a double under this layout. -/
def render (L : Layout) (x : Float) : String :=
  match (Binary64.ofFloat x).parts with
  | .nan => L.nan
  | .infinite neg => (if neg then "-" else "") ++ L.infinity
  | .finite neg m e =>
    let sign := if neg then "-" else ""
    if m = 0 then sign ++ (if L.pointZero then "0.0" else "0")
    else
      let d := Decimal.shortest L.tie m e
      sign ++ L.place (toString d.digits) d.exponent

end Layout

/-- A double with exactly `places` digits after the point, rounded half to even on its
exact binary value; the sign of a negative value stays even when it rounds to zero. -/
def fixed (x : Float) (places : Nat) : String :=
  match (Binary64.ofFloat x).parts with
  | .nan => "NaN"
  | .infinite neg => (if neg then "-" else "") ++ "inf"
  | .finite neg m e =>
    let n := Decimal.fixedDigits m e places
    let s := toString n
    let s := if s.length ≤ places then Layout.zeros (places + 1 - s.length) ++ s else s
    let cut := s.length - places
    let body :=
      if places = 0 then s
      else String.ofList (s.toList.take cut) ++ "." ++ String.ofList (s.toList.drop cut)
    (if neg then "-" else "") ++ body

end DogCourier
