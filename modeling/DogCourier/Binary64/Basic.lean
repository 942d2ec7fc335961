/-! # Doubles by their bit pattern

    A `Binary64` is an IEEE-754 double kept as its 64-bit pattern, so the sign of a NaN
    is part of the value. Arithmetic runs on `Float` and then fixes the NaN that comes
    out: a NaN operand travels on, quietened, with its own sign; an invalid operation on
    two numbers (`inf - inf`, `0 * inf`, `inf / inf`, `0 / 0`) gives the default NaN,
    whose sign bit is set. When both operands are NaNs, subtraction and division pass on
    the left one, while addition and multiplication, whose operands may be taken in
    either order, pass on the right one. The total order puts negative NaNs first and positive NaNs
    last, so that sign decides where such a value sorts. -/

namespace DogCourier

/-- An IEEE-754 binary64 value given by its bit pattern. -/
structure Binary64 where
  bits : UInt64
  deriving DecidableEq, Inhabited

namespace Binary64

/-- The sign bit. -/
def sign (x : Binary64) : Bool := x.bits >>> 63 == 1

/-- The biased exponent field, eleven bits. -/
def expField (x : Binary64) : Nat := (x.bits >>> 52).toNat % 2048

/-- The trailing significand field, fifty-two bits. -/
def fracField (x : Binary64) : Nat := x.bits.toNat % Nat.pow 2 52

/-- A NaN has a full exponent field and a non-zero significand. -/
def isNaN (x : Binary64) : Bool := x.expField == 2047 && x.fracField != 0

/-- The bit pattern of a `Float`; a NaN comes out positive and quiet. -/
def ofFloat (f : Float) : Binary64 := ⟨f.toBits⟩

/-- The `Float` with this bit pattern; every NaN becomes the one NaN of `Float`. -/
def toFloat (x : Binary64) : Float := Float.ofBits x.bits

/-- The NaN that an invalid operation on two numbers produces: quiet, sign bit set. -/
def defaultNaN : Binary64 := ⟨0xFFF8000000000000⟩

/-- Sets the quiet bit of a NaN. -/
def quiet (x : Binary64) : Binary64 := ⟨x.bits ||| 0x0008000000000000⟩

/-- Applies a `Float` operation under the NaN rule: the NaN operand wins, the left one
if both are NaNs, and a NaN made from two numbers is the default NaN. -/
def lift (op : Float → Float → Float) (a b : Binary64) : Binary64 :=
  if a.isNaN then a.quiet
  else if b.isNaN then b.quiet
  else
    let r := op a.toFloat b.toFloat
    if r.isNaN then defaultNaN else ofFloat r

/-- `lift` for an operation whose operands may be swapped: of two NaNs the right one
wins. -/
def liftSwapped (op : Float → Float → Float) (a b : Binary64) : Binary64 :=
  lift (fun x y => op y x) b a

instance : Add Binary64 := ⟨liftSwapped (· + ·)⟩
instance : Sub Binary64 := ⟨lift (· - ·)⟩
instance : Mul Binary64 := ⟨liftSwapped (· * ·)⟩
instance : Div Binary64 := ⟨lift (· / ·)⟩

/-- Negation flips the sign bit, of a NaN too. -/
instance : Neg Binary64 := ⟨fun x => ⟨x.bits ^^^ 0x8000000000000000⟩⟩

/-- The key of the total order: a negative pattern is complemented, a positive one has
its sign bit set, and the keys compare as unsigned numbers. -/
def totalKey (x : Binary64) : UInt64 :=
  if x.sign then ~~~x.bits else x.bits ^^^ 0x8000000000000000

/-- The total order: negative NaN, negative infinity, negative numbers, `-0`, `+0`,
positive numbers, positive infinity, positive NaN. -/
def totalCompare (a b : Binary64) : Ordering := compare a.totalKey.toNat b.totalKey.toNat

/-- `a` comes before `b` in the total order. -/
def totalLt (a b : Binary64) : Bool := a.totalKey < b.totalKey

/-- The larger of `x` and zero, where a NaN gives zero. -/
def maxZero (x : Binary64) : Binary64 :=
  if x.isNaN then ofFloat 0.0
  else if x.toFloat < 0.0 then ofFloat 0.0
  else x

/-- What a bit pattern denotes: a NaN, an infinity, or `± significand · 2^exponent`. -/
inductive Parts where
  | nan
  | infinite (negative : Bool)
  | finite (negative : Bool) (significand : Nat) (exponent : Int)

/-- Splits a double into sign, integer significand and binary exponent; a subnormal has
exponent `-1074`, a normal value carries its hidden bit in the significand. -/
def parts (x : Binary64) : Parts :=
  if x.expField == 2047 then
    if x.fracField == 0 then .infinite x.sign else .nan
  else if x.expField == 0 then .finite x.sign x.fracField (-1074)
  else .finite x.sign (Nat.pow 2 52 + x.fracField) ((x.expField : Int) - 1075)

/-- The largest whole double not above `x`, as C's `floor`: NaNs, infinities, zeros and
whole values stay as they are, and a value between `-1` and `0` goes to `-1`. -/
def floor (x : Float) : Float :=
  match (ofFloat x).parts with
  | .finite neg m e =>
    if 0 ≤ e then x
    else
      let whole := m / Nat.pow 2 (-e).toNat
      if neg then -(if m % Nat.pow 2 (-e).toNat = 0 then whole else whole + 1).toUInt64.toFloat
      else whole.toUInt64.toFloat
  | _ => x

/-- The whole number nearest to `m · 2^e`, a half going up. -/
def halfUp (m : Nat) (e : Int) : Nat :=
  if 0 ≤ e then m * Nat.pow 2 e.toNat else (m + Nat.pow 2 ((-e).toNat - 1)) / Nat.pow 2 (-e).toNat

/-- The integer nearest to a double, a half going away from zero, limited to the 32-bit
range; a NaN gives zero. -/
def toGrid (x : Binary64) : Int32 :=
  match x.parts with
  | .nan => 0
  | .infinite neg => if neg then Int32.minValue else Int32.maxValue
  | .finite neg m e => Int32.ofIntClamp (if neg then -(halfUp m e : Int) else halfUp m e)

end Binary64

end DogCourier
