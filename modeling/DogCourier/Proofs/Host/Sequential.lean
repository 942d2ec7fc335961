import DogCourier.Host.Loop

/-! # The host runs one command at a time, in the order received

    Whatever the clients and however their sends interleave, the channel receives the
    commands in one order, and the host behaves as if the requests ran one after another
    on the game in that order (`serial`): each answer is the game's answer to its request
    on the game all earlier requests left, so no request sees a tick half done. After a
    `shutdown` command, or once the channel closes, the shutdown hooks run once on that
    game and the host hands back what they leave. Requests the loop never takes get no
    answer but "disconnected". A tick that halts ends the run there: it and every later
    request are answered "disconnected", and the host reports the panic.

    * `run_ended`, `run_shutdown`, `run_close`: the loop once it has stopped, at a
      `shutdown`, and when the channel closes;
    * `run_requests`: requests taken one by one, as `serial` runs them;
    * `serve_runs_requests_in_order`: a whole run of the host. -/

namespace DogCourier

namespace Host

/-- Requests run one after another on a game, each on the game the ones before it left:
their replies up to the first that halts, and the game they leave, or none when one
halted. -/
def serial (g : Game) : List Request → List Reply × Option Game
  | [] => ([], some g)
  | r :: rs =>
    match handle g r with
    | .ok (g', reply) => ((reply :: (serial g' rs).1), (serial g' rs).2)
    | .error _ => ([], none)

/-- The commands of clients, one per request. -/
def requests (reqs : List (Nat × Request)) : List Command := reqs.map fun q => .request q.1 q.2

/-- The answers of requests that the loop never takes. -/
def refused (cmds : List Command) : List (Nat × Except HostError Reply) :=
  (cmds.filterMap Command.client?).map fun c => (c, .error .disconnected)

/-- The loop after requests ran as `serial` ran them: still running on the game they left,
or ended by a halt. -/
def Loop.after : Option Game → Loop
  | some g => .running g
  | none => .ended (.error .panicked)

@[simp] theorem refused_nil : refused [] = [] := rfl

@[simp] theorem refused_shutdown (rest : List Command) : refused (.shutdown :: rest) = refused rest :=
  rfl

@[simp] theorem refused_request (c : Nat) (r : Request) (rest : List Command) :
    refused (.request c r :: rest) = (c, .error .disconnected) :: refused rest :=
  rfl

theorem refused_append (a b : List Command) : refused (a ++ b) = refused a ++ refused b := by
  simp [refused, List.filterMap_append]

theorem refused_requests (reqs : List (Nat × Request)) :
    refused (requests reqs) = reqs.map fun q => (q.1, .error .disconnected) := by
  simp [refused, requests, List.filterMap_map, Function.comp_def, Command.client?]

/-- Once the loop has stopped it runs nothing, and every later request is refused. -/
theorem run_ended (result : Except HostError Game) :
    ∀ cmds, (Loop.ended result).run cmds = ⟨[], refused cmds, result⟩
  | [] => rfl
  | .shutdown :: rest => by simp [Loop.run, Loop.step, run_ended result rest]
  | .request c r :: rest => by simp [Loop.run, Loop.step, run_ended result rest]

/-- A `shutdown` command runs the hooks once and leaves the rest unanswered. -/
theorem run_shutdown (g : Game) (rest : List Command) :
    (Loop.running g).run (.shutdown :: rest) = ⟨[.shutdown], refused rest, finish g⟩ := by
  simp [Loop.run, Loop.step, run_ended]

/-- The channel closing stops a running loop as `shutdown` does. -/
theorem run_close (g : Game) : (Loop.running g).run [] = ⟨[.shutdown], [], finish g⟩ := rfl

/-- Requests taken one by one run as `serial` runs them: the requests up to the one that
halted, if any, ran in order, the answers are their replies, and the requests from the
halted one on are refused; the rest of the channel meets the loop they leave. -/
theorem run_requests (g : Game) (reqs : List (Nat × Request)) (rest : List Command) :
    (Loop.running g).run (requests reqs ++ rest) =
      ⟨(reqs.take ((serial g (reqs.map (·.2))).1.length + 1)).map (fun q => .handle q.2) ++
          ((Loop.after (serial g (reqs.map (·.2))).2).run rest).actions,
        (reqs.zip (serial g (reqs.map (·.2))).1).map (fun p => (p.1.1, .ok p.2)) ++
          (reqs.drop (serial g (reqs.map (·.2))).1.length).map (fun q => (q.1, .error .disconnected)) ++
          ((Loop.after (serial g (reqs.map (·.2))).2).run rest).answers,
        ((Loop.after (serial g (reqs.map (·.2))).2).run rest).result⟩ := by
  induction reqs generalizing g with
  | nil => simp [requests, serial, Loop.after]
  | cons q reqs ih =>
    obtain ⟨c, r⟩ := q
    cases hr : handle g r with
    | ok p =>
      -- the request ran; the others meet the game it left
      obtain ⟨g', reply⟩ := p
      have hrun : (Loop.running g).run (requests ((c, r) :: reqs) ++ rest) =
          ⟨.handle r :: ((Loop.running g').run (requests reqs ++ rest)).actions,
            (c, .ok reply) :: ((Loop.running g').run (requests reqs ++ rest)).answers,
            ((Loop.running g').run (requests reqs ++ rest)).result⟩ := by
        simp [requests, Loop.run, Loop.step, hr]
      rw [hrun, ih g']
      simp [serial, hr]
    | error e =>
      -- the thread stopped: this request and all later ones go unanswered
      have hrun : (Loop.running g).run (requests ((c, r) :: reqs) ++ rest) =
          ⟨[.handle r], (c, .error .disconnected) :: refused (requests reqs ++ rest), .error .panicked⟩ := by
        simp [requests, Loop.run, Loop.step, hr, run_ended]
      rw [hrun, refused_append, refused_requests]
      simp [serial, hr, Loop.after, run_ended]

/-- A host started on a game, over the commands its channel receives, in that order: the
clients' requests, then a `shutdown` command and whatever is sent after it, or the channel
closing. The thread runs the requests one at a time in that order, up to the first that
halts, if any; each client's answer is the game's reply to its request on the game the
earlier requests left, and a request from the halted one on is answered "disconnected".
When nothing halted, the shutdown hooks run exactly once, after all the requests, and the
host hands back what they leave of the game the requests left; after a halt, the host
reports the panic. The commands after `shutdown` run nothing and are answered
"disconnected". -/
theorem serve_runs_requests_in_order (g : Game) (reqs : List (Nat × Request))
    (after : List Command) :
    serve g (requests reqs ++ .shutdown :: after) =
      ⟨(reqs.take ((serial g (reqs.map (·.2))).1.length + 1)).map (fun q => .handle q.2) ++
          (if (serial g (reqs.map (·.2))).2.isSome then [.shutdown] else []),
        (reqs.zip (serial g (reqs.map (·.2))).1).map (fun p => (p.1.1, .ok p.2)) ++
          (reqs.drop (serial g (reqs.map (·.2))).1.length).map (fun q => (q.1, .error .disconnected)) ++
          refused after,
        match (serial g (reqs.map (·.2))).2 with
        | some g' => finish g'
        | none => .error .panicked⟩ ∧
    serve g (requests reqs) =
      ⟨(reqs.take ((serial g (reqs.map (·.2))).1.length + 1)).map (fun q => .handle q.2) ++
          (if (serial g (reqs.map (·.2))).2.isSome then [.shutdown] else []),
        (reqs.zip (serial g (reqs.map (·.2))).1).map (fun p => (p.1.1, .ok p.2)) ++
          (reqs.drop (serial g (reqs.map (·.2))).1.length).map (fun q => (q.1, .error .disconnected)),
        match (serial g (reqs.map (·.2))).2 with
        | some g' => finish g'
        | none => .error .panicked⟩ := by
  constructor
  · rw [serve, run_requests]
    cases (serial g (reqs.map (·.2))).2 <;> simp [Loop.after, run_shutdown, run_ended]
  · have h := run_requests g reqs []
    rw [List.append_nil] at h
    rw [serve, h]
    cases (serial g (reqs.map (·.2))).2 <;> simp [Loop.after, run_close, run_ended]

end Host

end DogCourier
