import DogCourier.Plane.Basic

/-! # Roads and their rectangles

    A road is an axis-aligned segment between two grid points. Its drivable surface is
    its bounding rectangle widened by an offset on every side. The road is registered
    at every integer cell of its centre line, both ends included: `cells` lists them in
    order, and `hasCell` says which they are without listing them. -/

namespace DogCourier

/-- An axis-aligned road between two grid points. -/
structure Road where
  start : Cell
  finish : Cell
  deriving DecidableEq, Inhabited

/-- A drivable rectangle, bounds included. -/
structure Rect where
  x0 : Float
  x1 : Float
  y0 : Float
  y1 : Float
  deriving Inhabited

namespace Road

/-- The road from `start` along the x axis to column `x`. -/
def horizontal (start : Cell) (x : Int32) : Road := ⟨start, ⟨x, start.y⟩⟩

/-- The road from `start` along the y axis to row `y`. -/
def vertical (start : Cell) (y : Int32) : Road := ⟨start, ⟨start.x, y⟩⟩

/-- Both ends share a row. -/
def isHorizontal (r : Road) : Bool := r.start.y == r.finish.y

/-- Both ends share a column. -/
def isVertical (r : Road) : Bool := r.start.x == r.finish.x

/-- The point at fraction `t` of the centre line, `t` clamped into `[0, 1]` (a NaN
stays NaN). -/
def pointAt (r : Road) (t : Float) : Point :=
  let t := if t < 0.0 then 0.0 else if t > 1.0 then 1.0 else t
  let a := r.start.toPoint
  a + (r.finish.toPoint - a).scale t

/-- The bounding rectangle widened by `offset` on every side. -/
def rect (r : Road) (offset : Float) : Rect :=
  { x0 := Float.ofInt (min r.start.x.toInt r.finish.x.toInt) - offset
    x1 := Float.ofInt (max r.start.x.toInt r.finish.x.toInt) + offset
    y0 := Float.ofInt (min r.start.y.toInt r.finish.y.toInt) - offset
    y1 := Float.ofInt (max r.start.y.toInt r.finish.y.toInt) + offset }

/-- The integer coordinates from the smaller of `a` and `b` to the larger, both included. -/
def span (a b : Int32) : List Int32 :=
  let lo := min a.toInt b.toInt
  (List.range (max a.toInt b.toInt - lo + 1).toNat).map fun (k : Nat) => Int32.ofInt (lo + k)

/-- Every integer cell of the centre line, both ends included, from the lower end: along the
row for a road whose ends share a row, else along its start's column. -/
def cells (r : Road) : List Cell :=
  if r.isHorizontal then (span r.start.x r.finish.x).map fun x => ⟨x, r.start.y⟩
  else (span r.start.y r.finish.y).map fun y => ⟨r.start.x, y⟩

/-- The road is registered at `c`: the cell lies on its centre line. A road whose ends
share a row runs along that row; any other road runs along its start's column. -/
def hasCell (r : Road) (c : Cell) : Bool :=
  if r.isHorizontal then
    c.y == r.start.y && decide (min r.start.x.toInt r.finish.x.toInt ≤ c.x.toInt)
      && decide (c.x.toInt ≤ max r.start.x.toInt r.finish.x.toInt)
  else
    c.x == r.start.x && decide (min r.start.y.toInt r.finish.y.toInt ≤ c.y.toInt)
      && decide (c.y.toInt ≤ max r.start.y.toInt r.finish.y.toInt)

end Road

namespace Rect

/-- The point lies in the rectangle, bounds included. -/
def contains (q : Rect) (p : Point) : Bool :=
  p.x ≥ q.x0 && p.x ≤ q.x1 && p.y ≥ q.y0 && p.y ≤ q.y1

/-- The nearest point of the rectangle's edge toward `target`, when the target lies
beyond a side and within the span of the other axis, with its distance along that
axis. A later offer replaces an earlier one only when strictly nearer. -/
def boundaryToward (q : Rect) (target : Point) : Option (Point × Float) :=
  let offer (best : Option (Point × Float)) (p : Point) (d : Float) :=
    match best with
    | some (_, bd) => if d < bd then some (p, d) else best
    | none => some (p, d)
  let b0 : Option (Point × Float) := none
  let inX := target.x ≥ q.x0 && target.x ≤ q.x1
  let inY := target.y ≥ q.y0 && target.y ≤ q.y1
  let b1 := if inX && target.y ≤ q.y0 then offer b0 ⟨target.x, q.y0⟩ (q.y0 - target.y) else b0
  let b2 := if inX && target.y ≥ q.y1 then offer b1 ⟨target.x, q.y1⟩ (target.y - q.y1) else b1
  let b3 := if inY && target.x ≤ q.x0 then offer b2 ⟨q.x0, target.y⟩ (q.x0 - target.x) else b2
  if inY && target.x ≥ q.x1 then offer b3 ⟨q.x1, target.y⟩ (target.x - q.x1) else b3

end Rect

end DogCourier
