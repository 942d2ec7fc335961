import DogCourier.Road.Network
import DogCourier.Loot.Supply
import DogCourier.Json.Value

/-! # Maps

    A map is fixed once built: its roads (widened by the road half-width), decorative
    buildings, offices where loot is delivered, the loot kinds with their values, the
    dogs' speed and bag capacity, and optionally its own loot supply. Building a map
    checks, in this order, that it has a road, that it has a loot kind, and that no two
    offices share an id. -/

namespace DogCourier

/-- A decorative rectangle; it does not block movement. -/
structure Building where
  x : Int32
  y : Int32
  w : Int32
  h : Int32
  deriving Inhabited

/-- A delivery point and the drawing offset of its sprite. -/
structure Office where
  id : String
  position : Cell
  dx : Int32
  dy : Int32
  deriving Inhabited

/-- One entry of a map's loot table: its value, and every other key of its description
kept as written. -/
structure LootKind where
  value : Nat
  extra : List (String × JsonValue)
  deriving Inhabited

/-- A map with its validated parts. -/
structure Map where
  id : String
  name : String
  roads : RoadNet
  buildings : List Building
  offices : List Office
  lootKinds : List LootKind
  dogSpeed : Float
  bagCapacity : Nat
  supply : Option SupplyConfig
  deriving Inhabited

/-- Why a map could not be built. -/
inductive MapError where
  | duplicateOffice (map office : String)
  | noRoads (map : String)
  | noLootTypes (map : String)

/-- The error's text. -/
def MapError.message : MapError → String
  | .duplicateOffice m o => s!"map {m}: duplicate office id {o}"
  | .noRoads m => s!"map {m}: no roads"
  | .noLootTypes m => s!"map {m}: no loot types"

/-- The dogs' speed when a configuration gives none. -/
def defaultDogSpeed : Float := 1.0

/-- The bag capacity when a configuration gives none. -/
def defaultBagCapacity : Nat := 3

/-- The first id that repeats an earlier one. -/
def firstRepeat : List String → List String → Option String
  | _, [] => none
  | seen, x :: rest => if seen.contains x then some x else firstRepeat (x :: seen) rest

/-- The parts of a map before they are checked. -/
structure MapPlan where
  id : String
  name : String
  roads : List Road
  buildings : List Building
  offices : List Office
  lootKinds : List LootKind
  dogSpeed : Float := defaultDogSpeed
  bagCapacity : Nat := defaultBagCapacity
  supply : Option SupplyConfig := none

/-- Checks a plan into a map: a road, a loot kind, and distinct office ids. -/
def MapPlan.build (p : MapPlan) : Except MapError Map :=
  if p.roads.isEmpty then .error (.noRoads p.id)
  else if p.lootKinds.isEmpty then .error (.noLootTypes p.id)
  else match firstRepeat [] (p.offices.map (·.id)) with
    | some o => .error (.duplicateOffice p.id o)
    | none => .ok
      { id := p.id, name := p.name, roads := ⟨p.roads.toArray, roadHalfWidth⟩
        buildings := p.buildings, offices := p.offices, lootKinds := p.lootKinds
        dogSpeed := p.dogSpeed, bagCapacity := p.bagCapacity, supply := p.supply }

/-- The value of one item of a loot kind; a kind outside the table is worth nothing. -/
def Map.lootValue (m : Map) (kind : Nat) : Nat :=
  match m.lootKinds[kind]? with
  | some k => k.value
  | none => 0

end DogCourier
