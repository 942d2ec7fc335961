import DogCourier.Game.Run

/-! # The simulation host

    The game lives on one thread, and clients reach it through one channel. A client
    sends a request together with a channel of its own for the reply, and waits. The
    thread takes the commands off the channel in the order the channel received them,
    runs each on the game to its end before it takes the next, and sends the game's
    answer back to the request's client.

    A `shutdown` command, or the channel closing once every sender is gone, ends the
    loop: the game's shutdown hooks run and the game is handed back, unless a final save
    failed, which is then the host's error. A request the loop never takes, because it is
    queued behind the stop or sent once the loop has ended, is never answered, so its
    client sees the host disconnected. A tick that halts stops the thread: its client and
    every later one see the host disconnected, and the host reports the thread's panic.

    Ticks come only from clients here; a host with a tick period also ticks by the
    clock, which no run can reproduce. -/

namespace DogCourier

/-- Why a client, or the owner of the host, got no answer from the game. -/
inductive HostError where
  /-- The loop is not running to take the request or answer it. -/
  | disconnected
  | game (e : GameError)
  /-- The simulation thread stopped on a halt. -/
  | panicked
  deriving Inhabited

/-- The error's text. -/
def HostError.message : HostError → String
  | .disconnected => "simulation host is not running"
  | .game e => e.message
  | .panicked => "simulation thread panicked"

namespace Host

/-- A client's request to the game. -/
inductive Request where
  | tick (dt : Duration)
  | join (map name : String)
  | move (map : String) (dog : Nat) (c : Steer)
  | state (map : String)
  | records (start count : Nat)

/-- The game's answer to a request, as the thread sends it back. -/
inductive Reply where
  | ticked (r : Except GameError Unit)
  | joined (r : Except GameError Nat)
  | moved (r : Except GameError Unit)
  | state (s : Option SessionState)
  | records (rs : List Record)

/-- A message on the host's channel: a client's request, or the order to stop. -/
inductive Command where
  | request (client : Nat) (r : Request)
  | shutdown

/-- The client a command waits for an answer, if it is a request. -/
def Command.client? : Command → Option Nat
  | .request c _ => some c
  | .shutdown => none

/-- What the simulation thread does to the game: run a request, or run the shutdown hooks. -/
inductive Action where
  | handle (r : Request)
  | shutdown

/-- Runs a request on the game and gives the answer; a refused request leaves the game as
it was, and a tick that halts stops the thread. -/
def handle (g : Game) : Request → Except Halt (Game × Reply)
  | .tick dt => (g.tick dt).map fun (g, r) => (g, .ticked r)
  | .join map name =>
    .ok (match g.join map name with
      | .ok (g', id) => (g', .joined (.ok id))
      | .error e => (g, .joined (.error e)))
  | .move map dog c =>
    .ok (match g.steer map dog c with
      | .ok g' => (g', .moved (.ok ()))
      | .error e => (g, .moved (.error e)))
  | .state map => .ok (g, .state (g.state map))
  | .records start count => .ok (g, .records (g.records start count))

/-- The game the host hands back once its shutdown hooks ran, or the first failed final
save. -/
def finish (g : Game) : Except HostError Game :=
  match g.shutdown with
  | (g', .ok ()) => .ok g'
  | (_, .error e) => .error (.game e)

/-- The simulation thread between two commands: running on a game, or ended with what the
host's owner gets when joining it. -/
inductive Loop where
  | running (g : Game)
  | ended (result : Except HostError Game)

/-- One command, taken by the loop or, once the loop has ended, left unanswered: the loop
after it, what the thread did to the game, and the answer a waiting client gets. -/
def Loop.step : Loop → Command → Loop × List Action × List (Nat × Except HostError Reply)
  | .running g, .shutdown => (.ended (finish g), [.shutdown], [])
  | .running g, .request c r =>
    match handle g r with
    | .ok (g', reply) => (.running g', [.handle r], [(c, .ok reply)])
    | .error _ => (.ended (.error .panicked), [.handle r], [(c, .error .disconnected)])
  | .ended result, .shutdown => (.ended result, [], [])
  | .ended result, .request c _ => (.ended result, [], [(c, .error .disconnected)])

/-- The channel closing once every sender is gone: a running loop stops as on `shutdown`. -/
def Loop.close : Loop → List Action × Except HostError Game
  | .running g => ([.shutdown], finish g)
  | .ended result => ([], result)

/-- What a run of the host shows: the game operations the thread ran, in order; the answers
clients got, in the order the channel received their requests; and what joining the
thread gives. -/
structure Outcome where
  actions : List Action
  answers : List (Nat × Except HostError Reply)
  result : Except HostError Game

/-- The loop over the commands in the order the channel received them, until it closes. -/
def Loop.run (l : Loop) : List Command → Outcome
  | [] => ⟨l.close.1, [], l.close.2⟩
  | cmd :: rest =>
    let (l', acts, ans) := l.step cmd
    let o := l'.run rest
    ⟨acts ++ o.actions, ans ++ o.answers, o.result⟩

/-- A host started on `g`, over the commands its channel receives. -/
def serve (g : Game) (cmds : List Command) : Outcome := (Loop.running g).run cmds

end Host

end DogCourier
