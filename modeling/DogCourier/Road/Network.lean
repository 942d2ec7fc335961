import DogCourier.Road.Basic
import DogCourier.Binary64.Basic

/-! # The road network and clamped movement

    A network is a list of roads and one offset. Its cell index is filled road by road,
    in order, and along each road cell by cell, appending the road's index to the entry
    of the cell; a cell no road passes has no entry. The index is modelled by its look-up,
    a function from cells to the lists of road indices. A point is on the surface when
    a rectangle of a road registered at the point's cell holds it. `clamp` moves from a
    point toward a target without leaving the surface: while the target is not on a
    rectangle registered at the current cell, it hops to the nearest edge point toward
    the target offered by those rectangles (the first of equal distances in the total
    order, in road order), and it stops where no hop changes the position. More than
    `maxHops` hops is an error. -/

namespace DogCourier

/-- Failures of movement on a road network. -/
inductive RoadError where
  /-- The clamp did not settle within the hop limit. -/
  | hopLimit (hops : Nat)
  deriving DecidableEq, Inhabited

/-- The error's text. -/
def RoadError.message : RoadError → String
  | .hopLimit n => s!"movement clamp exceeded {n} iterations, road graph is malformed"

/-- Roads with the offset that widens each into its drivable rectangle. -/
structure RoadNet where
  roads : Array Road
  offset : Float
  deriving Inhabited

/-- The most hops one clamped move may take. -/
def maxHops : Nat := 1000

/-- The half-width of every road of a map. -/
def roadHalfWidth : Float := 0.4

namespace RoadNet

/-- Appends road `i` to the entry of cell `c`. -/
def register (index : Cell → List Nat) (i : Nat) (c : Cell) : Cell → List Nat :=
  fun c' => if c' = c then index c' ++ [i] else index c'

/-- Appends road `i` to the entry of every cell of its centre line, cell by cell. -/
def registerRoad (roads : Array Road) (index : Cell → List Nat) (i : Nat) : Cell → List Nat :=
  match roads[i]? with
  | some r => r.cells.foldl (fun index c => register index i c) index
  | none => index

/-- The cell index of some roads, filled road by road in order. -/
def cellIndex (roads : Array Road) : Cell → List Nat :=
  (List.range roads.size).foldl (registerRoad roads) fun _ => []

/-- Indices of the roads registered at a cell, in the order they were registered. -/
def roadsAt (net : RoadNet) (c : Cell) : List Nat := cellIndex net.roads c

/-- The rectangles of the roads registered at a cell, in the same order. -/
def rectsAt (net : RoadNet) (c : Cell) : List Rect :=
  (net.roadsAt c).map fun i => (net.roads[i]!).rect net.offset

/-- Some rectangle registered at `c` holds `p`. -/
def cellContains (net : RoadNet) (c : Cell) (p : Point) : Bool :=
  (net.rectsAt c).any (·.contains p)

/-- `p` is on the surface: a rectangle registered at its own cell holds it. -/
def contains (net : RoadNet) (p : Point) : Bool := net.cellContains (Cell.ofPoint p) p

/-- Keeps the first of two offers unless the second is strictly nearer in the total
order of distances. -/
def nearer (a b : Point × Float) : Point × Float :=
  if Binary64.totalLt (Binary64.ofFloat b.2) (Binary64.ofFloat a.2) then b else a

/-- The nearest edge point toward `target` offered by the rectangles at `c`. -/
def nearestBoundary (net : RoadNet) (c : Cell) (target : Point) : Option Point :=
  let offers := (net.rectsAt c).filterMap (·.boundaryToward target)
  match offers with
  | [] => none
  | o :: os => some (os.foldl nearer o).1

/-- Hops from `current` toward `target`, at most `fuel` times. -/
def hop (net : RoadNet) (target : Point) : Nat → Point → Except RoadError Point
  | 0, _ => .error (.hopLimit maxHops)
  | fuel + 1, current =>
    let cell := Cell.ofPoint current
    if net.cellContains cell target then .ok target
    else
      let next := (net.nearestBoundary cell target).getD current
      if next == current then .ok current else hop net target fuel next

/-- Moves from `source` toward `target` along the surface: the target itself when it is
reached, otherwise the farthest edge point on the way. -/
def clamp (net : RoadNet) (source target : Point) : Except RoadError Point :=
  if source == target then .ok target else net.hop target maxHops source

end RoadNet

end DogCourier
