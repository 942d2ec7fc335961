import DogCourier.Config.Read

/-! # Checking a configuration

    A configuration document becomes game settings and maps. The checks run in a fixed
    order and the first failure is the answer: the game-wide loot supply's period, the
    retirement time, then each map in turn, where its own supply's period comes first,
    then each road (exactly one of `x1` and `y1`), then the map's own checks. Seconds
    become durations by rounding to the nearest nanosecond; a negative, non-finite or
    too large number of seconds is refused. A supply's probability is limited to
    `[0, 1]`. -/

namespace DogCourier

/-- Why a configuration was refused. -/
inductive ConfigError where
  /-- The text is not a configuration document. -/
  | read (e : ReadError)
  /-- A road names both or neither of its far ends. -/
  | invalidRoad (map : String) (index : Nat)
  /-- A number of seconds that is no duration. -/
  | invalidDuration (field : String) (value : Float)
  /-- A map failed its own checks. -/
  | map (e : MapError)
  /-- Two maps share an id. -/
  | duplicateMap (map : String)

/-- The error's text. -/
def ConfigError.message : ConfigError → String
  | .read e => "invalid config JSON: " ++ e.message
  | .invalidRoad m i => s!"map {m}: road #{i} must have exactly one of x1 or y1"
  | .invalidDuration f v =>
    f ++ " must be a non-negative number of seconds, got " ++ Layout.full.render v
  | .map e => e.message
  | .duplicateMap m => s!"map {m} is already registered"

/-- Settings shared by every session of a game. -/
structure Settings where
  /-- The supply of maps that have none of their own. -/
  supply : SupplyConfig
  /-- Idle time after which a dog retires. -/
  retirementTime : Duration
  /-- New dogs start at a random road point instead of the first road's start. -/
  randomizeSpawn : Bool := false
  /-- Seed of every session's random stream. -/
  seed : Option Nat := none
  deriving Inhabited

/-- Checked settings and maps. -/
structure GameConfig where
  settings : Settings
  maps : List Map
  deriving Inhabited

/-- A number of seconds as a duration, or the error naming `field`. -/
def secondsAs (field : String) (v : Float) : Except ConfigError Duration :=
  match Duration.ofSeconds? v with
  | some d => .ok d
  | none => .error (.invalidDuration field v)

/-- A written supply, checked. -/
def SupplyDoc.check (g : SupplyDoc) : Except ConfigError SupplyConfig := do
  let period ← secondsAs "lootGeneratorConfig.period" g.period
  return ⟨period, clampUnit g.probability⟩

/-- A written road, which must name exactly one far end. -/
def RoadDoc.check (map : String) (index : Nat) (r : RoadDoc) : Except ConfigError Road :=
  let start : Cell := ⟨r.x0, r.y0⟩
  match r.x1, r.y1 with
  | some x, none => .ok (Road.horizontal start x)
  | none, some y => .ok (Road.vertical start y)
  | _, _ => .error (.invalidRoad map index)

/-- A written map, checked, with the game-wide speed and capacity as defaults. -/
def MapDoc.check (speed : Float) (capacity : Nat) (m : MapDoc) : Except ConfigError Map := do
  let supply ← match m.supply with
    | some g => some <$> g.check
    | none => pure none
  let roads ← m.roads.zipIdx.mapM fun (r, i) => r.check m.id i
  let offices := m.offices.map fun o => ({ id := o.id, position := ⟨o.x, o.y⟩, dx := o.offsetX, dy := o.offsetY } : Office)
  let plan : MapPlan :=
    { id := m.id, name := m.name, roads := roads, buildings := m.buildings, offices := offices
      lootKinds := m.lootKinds, dogSpeed := m.dogSpeed.getD speed
      bagCapacity := m.bagCapacity.getD capacity, supply := supply }
  match plan.build with
  | .ok map => pure map
  | .error e => throw (.map e)

/-- A written configuration, checked. -/
def ConfigDoc.check (d : ConfigDoc) : Except ConfigError GameConfig := do
  let supply ← match d.supply with
    | some g => g.check
    | none => pure SupplyConfig.default
  let retire ← secondsAs "dogRetirementTime" d.retirementTime
  let maps ← d.maps.mapM (MapDoc.check d.dogSpeed d.bagCapacity)
  return ⟨{ supply := supply, retirementTime := retire }, maps⟩

/-- Reads and checks a configuration text. -/
def GameConfig.parse (text : String) : Except ConfigError GameConfig := do
  match ConfigDoc.parse text with
  | .ok d => d.check
  | .error e => throw (.read e)

end DogCourier
