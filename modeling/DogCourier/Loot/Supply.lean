import DogCourier.Time.Duration

/-! # Loot supply

    A supply tops up loot toward one item per looter. `probability` is the chance that
    one missing item arrives within `period`; time without a spawn accumulates, so the
    chance over the accumulated time is `1 - (1 - probability)^(idle / period)`. The
    expected number of arrivals is the shortage times that chance: its whole part always
    spawns, and its fraction spawns once more when the roll falls below it. Never more
    than the shortage spawns, and any spawn forgives the accumulated time. -/

namespace DogCourier

/-- How fast loot appears on a map. -/
structure SupplyConfig where
  period : Duration
  probability : Float
  deriving Inhabited

/-- Every five seconds, even odds. -/
def SupplyConfig.default : SupplyConfig := ⟨Duration.ofSecs 5, 0.5⟩

/-- A double limited to `[0, 1]`; a NaN stays NaN. -/
def clampUnit (x : Float) : Float := if x < 0.0 then 0.0 else if x > 1.0 then 1.0 else x

/-- A loot supply and the time since it last spawned anything. -/
structure Supply where
  period : Duration
  probability : Float
  idle : Duration
  deriving Inhabited

namespace Supply

/-- A fresh supply; the probability is limited to `[0, 1]`. -/
def new (c : SupplyConfig) : Supply := ⟨c.period, clampUnit c.probability, Duration.zero⟩

/-- The configuration it runs with. -/
def config (s : Supply) : SupplyConfig := ⟨s.period, s.probability⟩

/-- The chance that one missing item has arrived over the idle time, with `pow` raising
a double to a power. -/
def chanceBy (pow : Float → Float → Float) (s : Supply) : Float :=
  if s.probability ≤ 0.0 then 0.0
  else if s.period.isZero then 1.0
  else
    let ratio := s.idle.toSeconds / s.period.toSeconds
    clampUnit (1.0 - pow (1.0 - s.probability) ratio)

/-- The chance that one missing item has arrived over the idle time, with the C library's
power. -/
def chance (s : Supply) : Float := s.chanceBy Float.pow

/-- How many of `shortage` missing items spawn at the supply's chance: the whole part of
the expected count, one more when `roll` in `[0, 1)` falls below its fraction, and never
more than the shortage. -/
def spawnCount (s : Supply) (shortage : Nat) (roll : Float) : Nat :=
  if shortage = 0 then 0
  else
    let expected := shortage.toUInt64.toFloat * s.chance
    let whole := Binary64.floor expected
    let fraction := expected - whole
    let n := whole.toUInt64.toNat
    let n := if fraction > 0.0 && roll < fraction then n + 1 else n
    min n shortage

/-- The items to spawn after `dt`, with `loot` items on the ground for `looters` looters;
`roll` in `[0, 1)` decides the fraction. -/
def generate (s : Supply) (dt : Duration) (loot looters : Nat) (roll : Float) :
    Except Halt (Supply × Nat) := do
  let idle ← s.idle.add dt
  let s := { s with idle := idle }
  let n := s.spawnCount (looters - loot) roll
  return (if n > 0 then { s with idle := Duration.zero } else s, n)

end Supply

end DogCourier
