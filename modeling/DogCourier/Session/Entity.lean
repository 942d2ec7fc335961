import DogCourier.Plane.Basic
import DogCourier.Time.Duration

/-! # Dogs and loot

    A dog has an id and a name, where it is and where it was at the start of the last
    tick (the segment it swept), its velocity and facing, its score, the loot in its bag,
    and two times on its own clock: how long it has been in the session and when it last
    moved. A new dog faces north (`U`), stands still and has an empty bag. Steering sets
    the velocity to the map's speed along an axis and faces that way; standing stops the
    dog and keeps its facing. Map `y` grows downward, so `U` is toward smaller `y`. -/

namespace DogCourier

/-- Where a dog faces. -/
inductive Direction where
  | north
  | south
  | west
  | east
  deriving DecidableEq, Inhabited

/-- The letter of a direction. -/
def Direction.letter : Direction → String
  | .north => "U"
  | .south => "D"
  | .west => "L"
  | .east => "R"

/-- A player's movement request. -/
inductive Steer where
  | left
  | right
  | up
  | down
  | stand
  deriving DecidableEq, Inhabited

/-- An item of loot: its id, its index in the map's loot table, and where it lies. -/
structure Loot where
  id : Nat
  kind : Nat
  position : Coords
  deriving Inhabited

/-- A dog as the session keeps it and as it is saved. -/
structure Dog where
  id : Nat
  name : String
  position : Point
  previous : Point
  velocity : Coords := Coords.zero
  direction : Direction := .north
  score : Nat := 0
  bag : List Loot := []
  alive : Duration := Duration.zero
  lastMoved : Duration := Duration.zero
  deriving Inhabited

namespace Dog

/-- A new dog at `p`. -/
def fresh (id : Nat) (name : String) (p : Point) : Dog :=
  { id := id, name := name, position := p, previous := p }

/-- Applies a movement request at `speed`. -/
def steer (d : Dog) (s : Steer) (speed : Float) : Dog :=
  match s with
  | .left => { d with velocity := Coords.ofVec ⟨-speed, 0.0⟩, direction := .west }
  | .right => { d with velocity := Coords.ofVec ⟨speed, 0.0⟩, direction := .east }
  | .up => { d with velocity := Coords.ofVec ⟨0.0, -speed⟩, direction := .north }
  | .down => { d with velocity := Coords.ofVec ⟨0.0, speed⟩, direction := .south }
  | .stand => { d with velocity := Coords.zero }

/-- Time since the dog last moved, zero if that lies ahead. -/
def idle (d : Dog) : Duration := d.alive.subSat d.lastMoved

end Dog

end DogCourier
