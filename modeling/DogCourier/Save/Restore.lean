import DogCourier.Save.Codec

/-! # Restoring saved games

    Restoring replaces a game's sessions and leaderboard with saved ones, all or
    nothing. The version must be the current one. The saved sessions are rebuilt in
    order, each as a fresh session on its map (so with a fresh supply and a random
    stream seeded anew from the game seed and the map id) into which its dogs, then its
    loot, then its counters are restored with the session's own checks. A map id that
    repeats an earlier saved session, or names no map of the game, is refused. The
    saved records are sorted into rank order. -/

namespace DogCourier

/-- Why a saved game was refused. -/
inductive SaveError where
  /-- The bytes are not a saved game. -/
  | codec (e : CodecError)
  | versionMismatch (found : Nat)
  | unknownMap (map : String)
  | duplicateSession (map : String)
  /-- A saved session failed the session's own checks. -/
  | corrupt (map : String) (e : SessionError)
  deriving Inhabited

/-- The error's text. -/
def SaveError.message : SaveError → String
  | .codec e => "Serialization error: " ++ e.message
  | .versionMismatch n => s!"Save version mismatch: expected {saveVersion}, found {n}"
  | .unknownMap m => s!"saved session refers to unknown map {m}"
  | .duplicateSession m => s!"map {m} has more than one saved session"
  | .corrupt m e => s!"saved session on map {m} is inconsistent: " ++ e.message

namespace Game

/-- A saved session rebuilt on its map. -/
def rebuild (g : Game) (saved : SavedSession) : Except SaveError Session := do
  let some m := g.findMap saved.mapId | throw (.unknownMap saved.mapId)
  let corrupt (r : Except SessionError Session) : Except SaveError Session :=
    match r with
    | .ok s => .ok s
    | .error e => .error (.corrupt saved.mapId e)
  let s ← saved.dogs.foldlM (fun s d => corrupt (s.restoreDog d.toDog)) (Session.new m g.settings)
  let s ← saved.loot.foldlM (fun s l => corrupt (s.restoreLoot l)) s
  corrupt (s.setCounters saved.nextDogId saved.nextLootId)

/-- Rebuilds saved sessions in order, refusing a map id seen before. -/
def rebuildAll (g : Game) : List String → List SavedSession → Except SaveError (List Session)
  | _, [] => .ok []
  | seen, saved :: rest =>
    if seen.contains saved.mapId then .error (.duplicateSession saved.mapId)
    else do
      let s ← g.rebuild saved
      let ss ← g.rebuildAll (saved.mapId :: seen) rest
      return s :: ss

/-- Replaces the sessions and leaderboard with saved ones. -/
def restore (g : Game) (d : SaveData) : Except SaveError Game := do
  if d.version != saveVersion then throw (.versionMismatch d.version)
  let sessions ← g.rebuildAll [] d.sessions
  return { g with sessions := sessions, leaderboard := Leaderboard.ofRecords d.leaderboard }

/-- Restores from the bytes of a saved game. -/
def load (g : Game) (bytes : ByteArray) : Except SaveError Game :=
  match SaveData.decode bytes with
  | .ok d => g.restore d
  | .error e => .error (.codec e)

/-- The bytes of the game's snapshot. -/
def save (g : Game) : ByteArray := g.snapshot.encode

end Game

end DogCourier
