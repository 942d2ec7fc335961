import DogCourier.Decimal.Shortest
import DogCourier.Binary64.Basic

/-! # Durations

    A `Duration` is a whole number of nanoseconds below `2^64` seconds, read as seconds
    and a sub-second part. Adding past the bound does not wrap: it is a `Halt`, which
    stops the program. Subtraction saturates at zero. `ofSeconds?` reads a double of
    seconds, rounded to the nearest nanosecond with ties to even; a negative, non-finite
    or too large value has no duration. -/

namespace DogCourier

/-- Nanoseconds per second. -/
def nanosPerSec : Nat := 1000000000

/-- One more than the largest duration, in nanoseconds: `2^64` seconds. -/
def Duration.bound : Nat := Nat.pow 2 64 * nanosPerSec

/-- A span of time in whole nanoseconds, below `2^64` seconds. -/
structure Duration where
  nanos : Nat
  lt_bound : nanos < Duration.bound

/-- A failure that stops the program outright. -/
inductive Halt where
  /-- A duration sum reached `2^64` seconds. -/
  | durationOverflow
  deriving DecidableEq

/-- The text a halt stops the program with. -/
def Halt.message : Halt → String
  | .durationOverflow => "overflow when adding durations"

namespace Duration

instance : DecidableEq Duration := fun a b =>
  if h : a.nanos = b.nanos then isTrue (by cases a; cases b; simp_all)
  else isFalse (by intro e; cases e; exact h rfl)

/-- No time at all. -/
def zero : Duration := ⟨0, by decide⟩

instance : Inhabited Duration := ⟨zero⟩

/-- The duration of `n` nanoseconds, if below the bound. -/
def ofNanos? (n : Nat) : Option Duration := if h : n < bound then some ⟨n, h⟩ else none

/-- The duration of `secs` seconds and `sub` nanoseconds, if below the bound. -/
def ofParts? (secs sub : Nat) : Option Duration := ofNanos? (secs * nanosPerSec + sub)

/-- Whole seconds. -/
def secs (d : Duration) : Nat := d.nanos / nanosPerSec

/-- Nanoseconds past the whole seconds. -/
def subsec (d : Duration) : Nat := d.nanos % nanosPerSec

/-- The duration of `ms` milliseconds, for `ms < 2^64`. -/
def ofMillis (ms : Nat) : Duration := (ofNanos? (ms * 1000000)).getD zero

/-- The duration of `s` whole seconds, for `s < 2^64`. -/
def ofSecs (s : Nat) : Duration := (ofNanos? (s * nanosPerSec)).getD zero

/-- The sum, or a halt when it reaches the bound. -/
def add (a b : Duration) : Except Halt Duration :=
  match ofNanos? (a.nanos + b.nanos) with
  | some d => .ok d
  | none => .error .durationOverflow

/-- The difference, zero when `b` exceeds `a`. -/
def subSat (a b : Duration) : Duration :=
  ⟨a.nanos - b.nanos, Nat.lt_of_le_of_lt (Nat.sub_le _ _) a.lt_bound⟩

/-- No time at all. -/
def isZero (d : Duration) : Bool := d.nanos == 0

instance : LT Duration := ⟨fun a b => a.nanos < b.nanos⟩
instance : LE Duration := ⟨fun a b => a.nanos ≤ b.nanos⟩
instance (a b : Duration) : Decidable (a < b) := inferInstanceAs (Decidable (a.nanos < b.nanos))
instance (a b : Duration) : Decidable (a ≤ b) := inferInstanceAs (Decidable (a.nanos ≤ b.nanos))
instance : Ord Duration := ⟨fun a b => compare a.nanos b.nanos⟩

/-- Seconds as a double: the whole seconds plus the nanoseconds divided by `1e9`. -/
def toSeconds (d : Duration) : Float :=
  d.secs.toUInt64.toFloat + d.subsec.toUInt64.toFloat / 1000000000.0

/-- A double of seconds as a duration, rounded to the nearest nanosecond with ties to
even; `-0.0` is zero, and a negative, non-finite or too large value has none. -/
def ofSeconds? (x : Float) : Option Duration :=
  match (Binary64.ofFloat x).parts with
  | .nan => none
  | .infinite _ => none
  | .finite neg m e =>
    if m = 0 then some zero
    else if neg then none
    else ofNanos? (Decimal.fixedDigits m e 9)

end Duration

end DogCourier
