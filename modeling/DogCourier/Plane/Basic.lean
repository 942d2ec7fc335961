import DogCourier.Binary64.Basic

/-! # Points, displacements and grid cells

    A map is a plane with `y` growing downward. Positions and displacements are pairs of
    doubles; grid cells are pairs of 32-bit integers. `Cell.ofPoint` rounds each
    coordinate to the nearest integer, a half away from zero, and then saturates to the
    32-bit range, with NaN going to zero. Equality of points is the IEEE comparison of
    both coordinates, so `-0.0` equals `0.0` and a NaN coordinate equals nothing.

    What a session stores and saves (a loot item's place, a dog's velocity) is kept as
    `Coords`, two doubles by their bit patterns, so that a NaN read from a save keeps its
    sign and payload until it is written again; arithmetic reads them as a `Point` or a
    `Vec`. -/

namespace DogCourier

/-- A position on the map. -/
structure Point where
  x : Float
  y : Float
  deriving Inhabited

/-- A displacement, or a velocity in map units per second. -/
structure Vec where
  x : Float
  y : Float
  deriving Inhabited

/-- Two doubles kept by their bit patterns. -/
structure Coords where
  x : Binary64
  y : Binary64
  deriving DecidableEq, Inhabited

/-- An integer grid cell. -/
structure Cell where
  x : Int32
  y : Int32
  deriving DecidableEq, Inhabited

namespace Vec

/-- The zero displacement. -/
def zero : Vec := ⟨0.0, 0.0⟩

/-- Dot product. -/
def dot (u v : Vec) : Float := u.x * v.x + u.y * v.y

/-- Squared length. -/
def normSq (v : Vec) : Float := v.dot v

/-- Both components compare equal to zero. -/
def isZero (v : Vec) : Bool := v.x == 0.0 && v.y == 0.0

/-- Scales both components. -/
def scale (v : Vec) (t : Float) : Vec := ⟨v.x * t, v.y * t⟩

/-- IEEE equality of both components. -/
instance : BEq Vec := ⟨fun u v => u.x == v.x && u.y == v.y⟩

end Vec

namespace Point

/-- The origin. -/
def origin : Point := ⟨0.0, 0.0⟩

/-- The displacement from `b` to `a`. -/
def sub (a b : Point) : Vec := ⟨a.x - b.x, a.y - b.y⟩

/-- Moves a point by a displacement. -/
def shift (p : Point) (v : Vec) : Point := ⟨p.x + v.x, p.y + v.y⟩

instance : HSub Point Point Vec := ⟨sub⟩
instance : HAdd Point Vec Point := ⟨shift⟩

/-- IEEE equality of both coordinates. -/
instance : BEq Point := ⟨fun a b => a.x == b.x && a.y == b.y⟩

end Point

namespace Coords

/-- The coordinates of a point. -/
def ofPoint (p : Point) : Coords := ⟨Binary64.ofFloat p.x, Binary64.ofFloat p.y⟩

/-- The point with these coordinates. -/
def toPoint (c : Coords) : Point := ⟨c.x.toFloat, c.y.toFloat⟩

/-- The components of a displacement. -/
def ofVec (v : Vec) : Coords := ⟨Binary64.ofFloat v.x, Binary64.ofFloat v.y⟩

/-- The displacement with these components. -/
def toVec (c : Coords) : Vec := ⟨c.x.toFloat, c.y.toFloat⟩

/-- Both components zero. -/
def zero : Coords := ofVec Vec.zero

/-- Both components compare equal to zero. -/
def isZero (c : Coords) : Bool := c.toVec.isZero

end Coords

namespace Cell

/-- The cell holding a point: each coordinate rounded half away from zero, then
saturated into the 32-bit range. -/
def ofPoint (p : Point) : Cell := ⟨(Binary64.ofFloat p.x).toGrid, (Binary64.ofFloat p.y).toGrid⟩

/-- The cell's grid point as a position. -/
def toPoint (c : Cell) : Point := ⟨Float.ofInt c.x.toInt, Float.ofInt c.y.toInt⟩

end Cell

end DogCourier
