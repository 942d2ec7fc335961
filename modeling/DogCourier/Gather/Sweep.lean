import DogCourier.Plane.Basic
import DogCourier.Binary64.Basic

/-! # Swept pickups

    A gatherer sweeps the segment from `start` to `finish` during a tick; an item sits
    still. Projecting the item onto the segment's line gives a ratio (0 at the start,
    1 at the finish) and a squared distance; the pair is collected when the ratio lies
    in `[0, 1]` and the distance is within the summed widths. `events` lists every
    gatherer/item pair, gatherer-major, and sorts them stably by time in the total
    order of doubles, so pickups replay in the order they happened. The arithmetic runs
    on `Binary64`, which keeps the sign of a NaN time and hence its place in the order. -/

namespace DogCourier

/-- A moving collector: the segment swept this tick and its half-width. -/
structure Gatherer where
  start : Point
  finish : Point
  width : Float
  deriving Inhabited

/-- A stationary target and its half-width. -/
structure Item where
  position : Point
  width : Float
  deriving Inhabited

/-- Where an item projects onto a swept segment. -/
structure Sighting where
  /-- Squared distance from the item to its projection on the segment's line. -/
  sqDistance : Binary64
  /-- Position of the projection along the segment: 0 at the start, 1 at the finish. -/
  ratio : Binary64
  deriving Inhabited

/-- One gatherer/item pair, at the moment of closest approach. -/
structure Event where
  gatherer : Nat
  item : Nat
  sqDistance : Binary64
  time : Binary64
  radius : Float
  deriving Inhabited

/-- A ratio in `[0, 1]` and a squared distance within the radius. -/
def withinReach (ratio sqDistance : Binary64) (radius : Float) : Bool :=
  0.0 ≤ ratio.toFloat && ratio.toFloat ≤ 1.0 && sqDistance.toFloat ≤ radius * radius

/-- Projects `c` onto the segment `a → b`; a segment of zero length reports the distance
to `a` with ratio 0, and a squared distance that cancels below zero is read as zero. -/
def sight (a b c : Point) : Sighting :=
  let ax := Binary64.ofFloat a.x
  let ay := Binary64.ofFloat a.y
  let ux := Binary64.ofFloat c.x - ax
  let uy := Binary64.ofFloat c.y - ay
  let vx := Binary64.ofFloat b.x - ax
  let vy := Binary64.ofFloat b.y - ay
  let vLen2 := vx * vx + vy * vy
  let uLen2 := ux * ux + uy * uy
  if vLen2.toFloat == 0.0 then ⟨uLen2, Binary64.ofFloat 0.0⟩
  else
    let uDotV := ux * vx + uy * vy
    ⟨(uLen2 - uDotV * uDotV / vLen2).maxZero, uDotV / vLen2⟩

/-- The sighting is within `radius`. -/
def Sighting.collected (s : Sighting) (radius : Float) : Bool :=
  withinReach s.ratio s.sqDistance radius

/-- The event's pair is collected. -/
def Event.collected (e : Event) : Bool := withinReach e.time e.sqDistance e.radius

/-- The event of one pair: the projection ratio is its time, except that a gatherer
that stood still and missed the item gets time `+inf`. -/
def Event.ofPair (gi ii : Nat) (g : Gatherer) (it : Item) : Event :=
  let radius := g.width + it.width
  let s := sight g.start g.finish it.position
  let time :=
    if g.start == g.finish && !s.collected radius then Binary64.ofFloat (1.0 / 0.0)
    else s.ratio
  ⟨gi, ii, s.sqDistance, time, radius⟩

/-- Every pair in gatherer-major, item-minor order, before sorting. -/
def pairEvents (gatherers : List Gatherer) (items : List Item) : List Event :=
  (gatherers.zipIdx.map fun (g, gi) =>
    items.zipIdx.map fun (it, ii) => Event.ofPair gi ii g it).flatten

/-- Every gatherer/item pair, stably sorted by time in the total order of doubles. -/
def events (gatherers : List Gatherer) (items : List Item) : List Event :=
  (pairEvents gatherers items).mergeSort fun a b => !Binary64.totalLt b.time a.time

end DogCourier
