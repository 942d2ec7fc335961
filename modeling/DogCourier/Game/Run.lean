import DogCourier.Save.Restore

/-! # Running a game

    A game tick ticks every session (see `Game.tickSessions`) and then tells each saver
    in turn. A saver with a zero period does nothing on ticks; another adds `dt` to the
    time since it last saved and, once that reaches its period, writes the game's
    snapshot to the state file and starts counting again. A write the disk refuses is
    the tick's failure (after any session's) and leaves the saver counting. Shutting down
    makes every saver write. The state file restores a game if it exists; a game with no
    state file stays fresh.

    Savers are the only observers of a game here. Any other observer, and removing one
    by the id it was added under, belong to the code that embeds a game, which no run of
    the program has. -/

namespace DogCourier

/-- How restoring from the state file ended. -/
inductive RestoreOutcome where
  | fresh
  | restored
  deriving DecidableEq, Inhabited

namespace Game

/-- Adds a saver with the given period. -/
def addSaver (g : Game) (period : Duration) : Game := { g with savers := g.savers ++ [⟨period, Duration.zero⟩] }

/-- One saver told of a tick of `dt`: the saver afterwards and, when it wrote `bytes`, how
the write went. A failed write keeps the time since the last save. -/
def Saver.onTick (disk : ByteArray → Option String) (bytes : ByteArray) (dt : Duration)
    (sv : Saver) : Except Halt (Saver × Option (Except String ByteArray)) := do
  if sv.period.isZero then return (sv, none)
  let since ← sv.sinceSave.add dt
  if since ≥ sv.period then
    match disk bytes with
    | none => return ({ sv with sinceSave := Duration.zero }, some (.ok bytes))
    | some e => return ({ sv with sinceSave := since }, some (.error ("IO error: " ++ e)))
  else return ({ sv with sinceSave := since }, none)

/-- The savers told of a tick in turn, with the state file as they leave it and the first
failed write. -/
def notifyTick (disk : ByteArray → Option String) (bytes : ByteArray) (dt : Duration) :
    List Saver → Option ByteArray → Except Halt (List Saver × Option ByteArray × Option String)
  | [], file => .ok ([], file, none)
  | sv :: rest, file => do
    let (sv, out) ← Saver.onTick disk bytes dt sv
    let (file, failure) := match out with
      | some (.ok b) => (some b, none)
      | some (.error e) => (file, some e)
      | none => (file, none)
    let (rest, file, later) ← notifyTick disk bytes dt rest file
    return (sv :: rest, file, failure <|> later)

/-- Advances every session by `dt`, then tells the savers; the result is the first
session's refusal, else the first failed write. -/
def tick (g : Game) (dt : Duration) : Except Halt (Game × Except GameError Unit) := do
  let (sessions, lb, err) ← tickSessions dt g.sessions g.leaderboard none
  let g := { g with sessions := sessions, leaderboard := lb }
  let (savers, file, failure) ← notifyTick g.disk g.save dt g.savers g.stateFile
  let g := { g with savers := savers, stateFile := file }
  return (g, match err <|> failure.map GameError.observer with
    | some e => .error e
    | none => .ok ())

/-- The savers each writing `bytes` at shutdown, with the state file as they leave it and
the first failed write; a saver whose write failed keeps its time since the last save. -/
def notifyShutdown (disk : ByteArray → Option String) (bytes : ByteArray) :
    List Saver → Option ByteArray → List Saver × Option ByteArray × Option String
  | [], file => ([], file, none)
  | sv :: rest, file =>
    let (sv, file, failure) := match disk bytes with
      | none => ({ sv with sinceSave := Duration.zero }, some bytes, none)
      | some e => (sv, file, some ("IO error: " ++ e))
    let (rest, file, later) := notifyShutdown disk bytes rest file
    (sv :: rest, file, failure <|> later)

/-- Every saver writes the game; the result is the first failed write. -/
def shutdown (g : Game) : Game × Except GameError Unit :=
  let (savers, file, failure) := notifyShutdown g.disk g.save g.savers g.stateFile
  ({ g with savers := savers, stateFile := file }, match failure with
    | some e => .error (.observer e)
    | none => .ok ())

/-- Restores from the state file if there is one. -/
def restoreOrFresh (g : Game) : Except SaveError (Game × RestoreOutcome) :=
  match g.stateFile with
  | none => .ok (g, .fresh)
  | some bytes => (g.load bytes).map fun g => (g, .restored)

end Game

end DogCourier
