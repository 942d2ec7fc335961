import DogCourier.Sim.Args
import DogCourier.Game.Run

/-! # A simulation run

    A run reads the configuration file and builds the game, with the command line's
    random spawning and seed. With a state file it first restores the game from the file
    (a file that cannot be restored is ignored) and adds a saver with the given period
    in milliseconds. A configuration that cannot be read, has no maps, or whose bots
    cannot join ends the run with exit code 1 and no output.

    Bot `i` plays on map `i mod maps` as `bot{i}`, taking over a dog of that name if the
    map's session has one. The bots' moves come from a stream seeded by the seed alone:
    each 50 ms step, every bot in turn draws one of left, right, up, down and stand
    (refused moves, as of a retired bot, are ignored), and then the game ticks 50 ms,
    until the run time is reached. A refused tick ends the run with exit code 1 after
    the banner. Shutting the game down makes the savers write, and the summary lists each
    session's dogs and the top ten of the leaderboard.

    Files are given as a list of paths with their contents; the run returns them with
    the state file as the savers left it. -/

namespace DogCourier

/-- What a run printed and its exit code. -/
structure Outcome where
  exitCode : Nat
  stdout : String
  stderr : String
  deriving Inhabited

/-- Files by path. -/
abbrev Files := List (String × ByteArray)

/-- The contents of the file at `path`. -/
def Files.read? (fs : Files) (path : String) : Option ByteArray := (fs.find? fun f => f.1 == path).map (·.2)

/-- Writes the file at `path`. -/
def Files.write (fs : Files) (path : String) (b : ByteArray) : Files :=
  if fs.any (·.1 == path) then fs.map fun f => if f.1 == path then (path, b) else f else fs ++ [(path, b)]

namespace Sim

/-- The simulated time of one step. -/
def stepTime : Duration := Duration.ofMillis 50

/-- The first line of the output, and the blank line after it. -/
def banner : String := "=== Dog Story Simulation Harness ===\n\n"

/-- The move a drawn number stands for. -/
def steerOf : Nat → Steer
  | 0 => .left
  | 1 => .right
  | 2 => .up
  | 3 => .down
  | _ => .stand

/-- `s` padded with spaces on the right to `n` characters. -/
def padRight (s : String) (n : Nat) : String := s ++ String.ofList (List.replicate (n - s.length) ' ')

/-- `s` padded with spaces on the left to `n` characters. -/
def padLeft (s : String) (n : Nat) : String := String.ofList (List.replicate (n - s.length) ' ') ++ s

/-- Joins the bots, in order; each is the map id and the dog id. -/
def joinBots (maps : List String) (count : Nat) (g : Game) : Except GameError (Game × List (String × Nat)) :=
  (List.range count).foldlM (fun (acc : Game × List (String × Nat)) i => do
    let (g, bots) := acc
    let mapId := maps[i % maps.length]!
    let name := s!"bot{i}"
    match (g.findSession mapId).bind (·.dogNamed name) with
    | some d => return (g, bots ++ [(mapId, d.id)])
    | none =>
      let (g, id) ← g.join mapId name
      return (g, bots ++ [(mapId, id)])) (g, [])

/-- Every bot draws and makes its move. -/
def moveBots (bots : List (String × Nat)) (g : Game) (rng : Stream) : Game × Stream :=
  bots.foldl (fun (acc : Game × Stream) bot =>
    let (g, rng) := acc
    let (k, rng) := rng.belowNarrow 5
    match g.steer bot.1 bot.2 (steerOf k) with
    | .ok g => (g, rng)
    | .error _ => (g, rng)) (g, rng)

/-- Runs `steps` steps; stops at the first refused tick. -/
def runSteps (bots : List (String × Nat)) : Nat → Game → Stream → Except Halt (Game × Option GameError)
  | 0, g, _ => .ok (g, none)
  | n + 1, g, rng => do
    let (g, rng) := moveBots bots g rng
    match ← g.tick stepTime with
    | (g, .error e) => return (g, some e)
    | (g, .ok ()) => runSteps bots n g rng

/-- The lines describing one session. -/
def sessionLines (s : Session) : String :=
  let dogs := s.dogCount
  let loot := s.lootCount
  "Map " ++ s.mapId ++ " (" ++ s.map.name ++ s!"): {dogs} dogs, {loot} loot on the ground\n" ++
    String.join (s.dogList.map fun d =>
      "  #" ++ padRight (toString d.id) 3 ++ " " ++ padRight d.name 10 ++ " score " ++
        padLeft (toString d.score) 5 ++ "  bag " ++ toString d.bag.length ++ "  at (" ++
        fixed d.position.x 2 ++ ", " ++ fixed d.position.y 2 ++ ") facing " ++ d.direction.letter ++ "\n")

/-- The summary printed after the run. -/
def summary (g : Game) : String :=
  let records := g.records 0 10
  String.join (g.sessions.map sessionLines) ++ "\n" ++
    if records.isEmpty then "Leaderboard is empty\n"
    else "Leaderboard:\n" ++ String.join (records.zipIdx.map fun (r, i) =>
      "  " ++ padLeft (toString (i + 1)) 2 ++ ". " ++ padRight r.name 10 ++ " " ++
        padLeft (toString r.score) 5 ++ " points  " ++ fixed r.playTime.toSeconds 1 ++ "s\n")

/-- A run that ends early with exit code 1. -/
def failed (files : Files) (out : String) : Outcome × Files := (⟨1, out, ""⟩, files)

/-- The game restored from the state file, if any, with its saver. -/
def withStateFile (o : SimOptions) (files : Files) (g : Game) : Game :=
  match o.stateFile with
  | none => g
  | some path =>
    let g := { g with stateFile := files.read? path }
    let g := match g.restoreOrFresh with
      | .ok (g, _) => g
      | .error _ => g
    g.addSaver (Duration.ofMillis o.saveStatePeriod)

/-- The files after the run: the state file as the game holds it. -/
def filesAfter (o : SimOptions) (files : Files) (g : Game) : Files :=
  match o.stateFile, g.stateFile with
  | some path, some b => files.write path b
  | _, _ => files

/-- Runs with parsed options. -/
def runWith (o : SimOptions) (files : Files) : Outcome × Files :=
  match (files.read? o.configFile).bind String.fromUTF8? with
  | none => failed files ""
  | some text =>
    match GameConfig.parse text with
    | .error _ => failed files ""
    | .ok c =>
      let c := { c with settings := { c.settings with randomizeSpawn := o.randomizeSpawnPoints, seed := o.seed } }
      match c.toGame with
      | .error _ => failed files ""
      | .ok g =>
        let g := withStateFile o files g
        let maps := g.maps.map (·.id)
        if maps.isEmpty then failed files ""
        else match joinBots maps o.bots g with
          | .error _ => failed files ""
          | .ok (g, bots) =>
            match runSteps bots (o.runFor * 20) g (Stream.ofSeed (o.seed.getD 0)) with
            | .error _ => failed files banner
            | .ok (g, some _) => (⟨1, banner, ""⟩, filesAfter o files g)
            | .ok (g, none) =>
              let g := g.shutdown.1
              (⟨0, banner ++ summary g, ""⟩, filesAfter o files g)

end Sim

/-- Runs the simulation command line over the given files. -/
def simulate (args : List String) (files : Files) : Outcome × Files :=
  match SimOptions.parse args with
  | .error .help => (⟨0, helpText, ""⟩, files)
  | .error (.error e) => (⟨2, "", e.render⟩, files)
  | .ok o => Sim.runWith o files

end DogCourier
