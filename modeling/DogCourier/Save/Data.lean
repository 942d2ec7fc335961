import DogCourier.Game.Basic

/-! # Saved games

    What is saved of a game: a format version, every session (its map id, both id
    counters, its free loot and its dogs, each in id order) in creation order, and the
    leaderboard. A saved dog keeps its positions by their bit patterns, as every double
    of a save is kept. Taking a snapshot reads the game and changes nothing. -/

namespace DogCourier

/-- The format version written and accepted. -/
def saveVersion : Nat := 1

/-- A saved dog: the dog's fields, with its position and previous position kept by their
bit patterns, as they are written and read. -/
structure SavedDog where
  id : Nat
  name : String
  position : Coords
  previous : Coords
  velocity : Coords
  direction : Direction
  score : Nat
  bag : List Loot
  alive : Duration
  lastMoved : Duration
  deriving Inhabited

namespace SavedDog

/-- What is saved of a dog. -/
def ofDog (d : Dog) : SavedDog :=
  ⟨d.id, d.name, Coords.ofPoint d.position, Coords.ofPoint d.previous, d.velocity, d.direction,
    d.score, d.bag, d.alive, d.lastMoved⟩

/-- The dog a saved one restores. -/
def toDog (d : SavedDog) : Dog :=
  { id := d.id, name := d.name, position := d.position.toPoint, previous := d.previous.toPoint
    velocity := d.velocity, direction := d.direction, score := d.score, bag := d.bag
    alive := d.alive, lastMoved := d.lastMoved }

end SavedDog

/-- A saved session. -/
structure SavedSession where
  mapId : String
  nextDogId : Nat
  nextLootId : Nat
  loot : List Loot
  dogs : List SavedDog
  deriving Inhabited

/-- A saved game. -/
structure SaveData where
  version : Nat
  sessions : List SavedSession
  leaderboard : List Record
  deriving Inhabited

/-- What is saved of a session. -/
def Session.saved (s : Session) : SavedSession :=
  ⟨s.mapId, s.nextDogId, s.nextLootId, s.lootList, s.dogList.map SavedDog.ofDog⟩

/-- What is saved of a game. -/
def Game.snapshot (g : Game) : SaveData :=
  ⟨saveVersion, g.sessions.map Session.saved, g.leaderboard.records⟩

end DogCourier
