import DogCourier.Session.Tick

/-! # Games

    A game holds the maps of its configuration (ids distinct), one session per map that
    has been played, in the order the sessions were created, the leaderboard of retired
    dogs, the state-file savers and the state file they write. A session is created the
    first time a dog joins its map (or on request); steering and queries need the
    session to exist already.

    A game tick runs every session's tick. A session that refuses its tick keeps what
    its earlier phases did and the first refusal becomes the game's answer, while the
    other sessions still advance; only successful sessions add records. -/

namespace DogCourier

/-- Why a game refused a request. -/
inductive GameError where
  | mapNotFound (map : String)
  | duplicateMap (map : String)
  /-- A session refused; the map names it. -/
  | session (map : String) (e : SessionError)
  /-- An observer failed; the text is its error's. -/
  | observer (e : String)
  deriving Inhabited

/-- The error's text. -/
def GameError.message : GameError → String
  | .mapNotFound m => s!"map {m} not found"
  | .duplicateMap m => s!"map {m} is already registered"
  | .session m e => s!"session on map {m}: " ++ e.message
  | .observer e => "tick observer failed: " ++ e

/-- An observer that saves the game to the state file every `period` of game time
(never on ticks when the period is zero) and on shutdown. -/
structure Saver where
  period : Duration
  sinceSave : Duration := Duration.zero
  deriving Inhabited

/-- Maps, sessions, leaderboard, savers, the state file and the disk it is written to. -/
structure Game where
  settings : Settings
  maps : List Map
  sessions : List Session := []
  leaderboard : Leaderboard := Leaderboard.empty
  savers : List Saver := []
  stateFile : Option ByteArray := none
  /-- How the file system answers a write of the state file: nothing when the bytes are
  stored, else the text of the error. -/
  disk : ByteArray → Option String := fun _ => none
  deriving Inhabited

namespace Game

/-- A game with the given settings and no maps. -/
def empty (settings : Settings) : Game := { settings := settings, maps := [] }

/-- The game with its maps replaced. -/
def withMaps (g : Game) (maps : List Map) : Game := { g with maps := maps }

/-- The map with id `id`. -/
def findMap (g : Game) (id : String) : Option Map := g.maps.find? fun m => m.id == id

/-- Registers a map; its id must be new. -/
def addMap (g : Game) (m : Map) : Except GameError Game :=
  if (g.findMap m.id).isSome then .error (.duplicateMap m.id) else .ok { g with maps := g.maps ++ [m] }

/-- The session on the map with id `id`. -/
def findSession (g : Game) (id : String) : Option Session := g.sessions.find? fun s => s.mapId == id

/-- Replaces the session on the map with id `id`. -/
def putSession (g : Game) (id : String) (s : Session) : Game :=
  { g with sessions := g.sessions.map fun t => if t.mapId == id then s else t }

/-- Creates the session on the map with id `id` unless it exists. -/
def addSession (g : Game) (id : String) : Except GameError Game :=
  if (g.findSession id).isSome then .ok g
  else match g.findMap id with
    | some m => .ok { g with sessions := g.sessions ++ [Session.new m g.settings] }
    | none => .error (.mapNotFound id)

/-- A new dog named `name` on the map with id `id`; returns the dog's id. -/
def join (g : Game) (id name : String) : Except GameError (Game × Nat) := do
  let g ← g.addSession id
  match g.findSession id with
  | none => throw (.mapNotFound id)
  | some s =>
    match s.join name with
    | .ok (s, dog) => return (g.putSession id s, dog)
    | .error e => throw (.session id e)

/-- Applies a movement request to a dog on the map with id `id`. -/
def steer (g : Game) (id : String) (dog : Nat) (c : Steer) : Except GameError Game :=
  match g.findSession id with
  | none => .error (.mapNotFound id)
  | some s =>
    match s.steer dog c with
    | .ok s => .ok (g.putSession id s)
    | .error e => .error (.session id e)

/-- The dogs and free loot on the map with id `id`, if it has a session. -/
def state (g : Game) (id : String) : Option SessionState := (g.findSession id).map Session.state

/-- Up to `count` leaderboard records from rank `start`. -/
def records (g : Game) (start count : Nat) : List Record := g.leaderboard.page start count

/-- Ticks each session in turn, keeping the first refusal. -/
def tickSessions (dt : Duration) :
    List Session → Leaderboard → Option GameError → Except Halt (List Session × Leaderboard × Option GameError)
  | [], lb, err => .ok ([], lb, err)
  | s :: rest, lb, err => do
    let (s, result) ← s.tick dt
    let (lb, err) := match result with
      | .ok report => (lb.extend report.retired, err)
      | .error e => (lb, err <|> some (.session s.mapId e))
    let (rest, lb, err) ← tickSessions dt rest lb err
    return (s :: rest, lb, err)

end Game

/-- The game of a configuration, its maps registered in order; registering refuses the
first map whose id repeats an earlier one. -/
def GameConfig.toGame (c : GameConfig) : Except ConfigError Game :=
  match firstRepeat [] (c.maps.map (·.id)) with
  | some m => .error (.duplicateMap m)
  | none => .ok (Game.empty c.settings |>.withMaps c.maps)

end DogCourier
