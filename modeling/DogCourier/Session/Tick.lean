import DogCourier.Session.Basic
import DogCourier.Gather.Sweep
import DogCourier.Leaderboard.Basic

/-! # A session's tick

    A tick of `dt` runs four phases in order.

    1. Movement. Every dog's previous position becomes its position. A dog with a
       non-zero velocity heads for `position + velocity * seconds`, clamped to the road
       network; when the clamp stops short of the target the dog stops. All clamps are
       computed before anything changes, so a malformed road graph fails the tick with
       the session untouched. The dogs that had a velocity have moved.
    2. Spawning. A unit draw is taken on every tick. The supply decides how many items
       arrive for the free loot and the stored dogs; their ids are reserved from the
       loot counter (failing, with the supply put back, if the counter would pass the
       last 64-bit value), and each gets a random road, a random kind and a random point
       of the road, drawn in that order.
    3. Gathering. The dogs in id order sweep their segments (half-width 0.3) past the
       free loot in id order (half-width 0) and then the offices (half-width 0.25). Events
       replay in time order: a dog takes an item not yet taken this tick while its bag
       has room, and at an office a non-empty bag is emptied into the score.
    4. Retirement. Every dog ages by `dt`, and a dog that moved this tick was last moved
       now. Dogs idle for longer than the retirement time leave in id order and become
       leaderboard records; their ids and names leave the indexes.

    A duration overflow while ageing a dog or the supply halts everything. -/

namespace DogCourier

namespace Session

/-- Half-width of a dog's sweep. -/
def dogWidth : Float := 0.3

/-- Half-width of free loot. -/
def lootWidth : Float := 0.0

/-- Half-width of an office. -/
def officeWidth : Float := 0.25

/-- Where a moving dog ends up and whether it was stopped short. -/
def plan (roads : RoadNet) (seconds : Float) (d : Dog) : Except RoadError (Option (Point × Bool)) :=
  if d.velocity.isZero then .ok none
  else
    let target := d.position + d.velocity.toVec.scale seconds
    match roads.clamp d.position target with
    | .ok reached => .ok (some (reached, !(reached == target)))
    | .error e => .error e

/-- Moves a dog as planned. -/
def advance (d : Dog) : Option (Point × Bool) → Dog
  | none => { d with previous := d.position }
  | some (reached, blocked) =>
    { d with previous := d.position, position := reached
             velocity := if blocked then Coords.zero else d.velocity }

/-- The movement phase: the moved dogs and the ids of those that moved, ascending. -/
def moveDogs (roads : RoadNet) (seconds : Float) (dogs : Store Dog) :
    Except RoadError (Store Dog × List Nat) := do
  let plans ← dogs.slots.toList.mapM fun e => plan roads seconds e.2
  let moved := ((dogs.slots.toList.zip plans).filter fun (_, p) => p.isSome).map (·.1.2.id)
  return (dogs.zipValues plans advance, moved.mergeSort fun a b => a ≤ b)

/-- Places new loot with ids `first`, `first + 1`, ... on random roads. -/
def placeLoot (roads : Array Road) (kinds : Nat) :
    Nat → Nat → Store Loot → Stream → Store Loot × Stream
  | 0, _, store, st => (store, st)
  | n + 1, first, store, st =>
    let (r, st) := st.below roads.size
    let (kind, st) := st.below kinds
    let (t, st) := st.unit
    let item : Loot := ⟨first, kind, Coords.ofPoint ((roads[r]!).pointAt t)⟩
    placeLoot roads kinds n (first + 1) (store.spawn item).1 st

/-- The spawning phase; the result is the number of items spawned. -/
def spawnLoot (s : Session) (dt : Duration) : Except Halt (Session × Except SessionError Nat) := do
  let (roll, stream) := s.stream.unit
  let s := { s with stream := stream }
  let (supply, count) ← s.supply.generate dt s.loot.size s.dogs.size roll
  let roads := s.map.roads.roads
  let kinds := s.map.lootKinds.length
  if roads.isEmpty || kinds == 0 then return ({ s with supply := supply }, .ok 0)
  let first := s.nextLootId
  if first + count ≥ idLimit then return (s, .error (.idOverflow .loot))
  let (loot, stream) := placeLoot roads kinds count first s.loot s.stream
  return ({ s with supply := supply, loot := loot, stream := stream, nextLootId := first + count }, .ok count)

/-- The score of a bag's contents; a kind outside the loot table is worth nothing. -/
def bagValue (m : Map) (bag : List Loot) : Nat := (bag.map fun l => m.lootValue l.kind).foldr (· + ·) 0

/-- What the gathering phase did: the items picked up, the items delivered, and the
points they scored. -/
structure GatherReport where
  pickedUp : Nat := 0
  delivered : Nat := 0
  points : Nat := 0
  deriving Inhabited, DecidableEq

/-- One gathering event applied to the dogs, the taken marks and the report. -/
def collect (m : Map) (dogs : List (Nat × Dog)) (loot : List (Nat × Loot))
    (acc : Store Dog × List Bool × GatherReport) (ev : Event) : Store Dog × List Bool × GatherReport :=
  let (store, taken, rep) := acc
  if !ev.collected then acc
  else match dogs[ev.gatherer]? with
    | none => acc
    | some (h, _) =>
      match store.get? h with
      | none => acc
      | some d =>
        match loot[ev.item]? with
        | some (_, l) =>
          if taken.getD ev.item false || d.bag.length ≥ m.bagCapacity then acc
          else (store.modify h (fun d => { d with bag := d.bag ++ [l] }), taken.set ev.item true,
            { rep with pickedUp := rep.pickedUp + 1 })
        | none =>
          if d.bag.isEmpty then acc
          else
            let points := bagValue m d.bag
            (store.modify h (fun d => { d with score := d.score + points, bag := [] }), taken,
              { rep with delivered := rep.delivered + d.bag.length, points := rep.points + points })

/-- The dogs with their handles, in id order. -/
def dogsById (s : Session) : List (Nat × Dog) :=
  s.dogs.slots.toList.mergeSort fun a b => a.2.id ≤ b.2.id

/-- The free loot with its handles, in id order. -/
def lootById (s : Session) : List (Nat × Loot) :=
  s.loot.slots.toList.mergeSort fun a b => a.2.id ≤ b.2.id

/-- The gathering events of a tick: every dog's sweep against the free loot and then the
offices, in time order. -/
def gatherEvents (s : Session) : List Event :=
  let gatherers := s.dogsById.map fun (_, d) =>
    ({ start := d.previous, finish := d.position, width := dogWidth } : Gatherer)
  let items := s.lootById.map (fun (_, l) => ({ position := l.position.toPoint, width := lootWidth } : Item)) ++
    s.map.offices.map fun o => ({ position := o.position.toPoint, width := officeWidth } : Item)
  events gatherers items

/-- The gathering phase. -/
def gather (s : Session) : Session × GatherReport :=
  let loot := s.lootById
  let (store, taken, rep) := s.gatherEvents.foldl (collect s.map s.dogsById loot)
    (s.dogs, List.replicate loot.length false, {})
  let freeLoot := (loot.zip taken).foldl (fun st (e, t) => if t then st.despawn e.1 else st) s.loot
  ({ s with dogs := store, loot := freeLoot }, rep)

/-- Ages a dog by `dt`; a dog that moved was last moved now. -/
def age (dt : Duration) (moved : List Nat) (d : Dog) : Except Halt Dog := do
  let alive ← d.alive.add dt
  return { d with alive := alive, lastMoved := if moved.contains d.id then alive else d.lastMoved }

/-- The retirement phase: the remaining dogs and the retired ids with their records. -/
def retire (dogs : Store Dog) (dt : Duration) (moved : List Nat) (threshold : Duration) :
    Except Halt (Store Dog × List (Nat × Record)) := do
  let aged ← dogs.slots.toList.mapM fun e => age dt moved e.2
  let store := dogs.zipValues aged fun _ d => d
  let leaving := (store.slots.toList.filter fun e => e.2.idle > threshold).mergeSort
    fun a b => a.2.id ≤ b.2.id
  return (leaving.foldl (fun st e => st.despawn e.1) store,
    leaving.map fun e => (e.2.id, ⟨e.2.name, e.2.score, e.2.alive⟩))

/-- What a tick did: how many dogs moved, how many items spawned, what gathering did, and
the records of the dogs that retired, in id order. -/
structure TickReport where
  moved : Nat
  spawned : Nat
  gathered : GatherReport
  retired : List Record
  deriving Inhabited

/-- Advances the session by `dt`. A refused tick still returns the session, which keeps
what the phases before the refusal did. -/
def tick (s : Session) (dt : Duration) : Except Halt (Session × Except SessionError TickReport) := do
  match moveDogs s.map.roads dt.toSeconds s.dogs with
  | .error e => return (s, .error (.roadGraph e))
  | .ok (dogs, moved) =>
    let (s, spawned) ← { s with dogs := dogs }.spawnLoot dt
    match spawned with
    | .error e => return (s, .error e)
    | .ok count =>
      let (s, gathered) := s.gather
      let (dogs, leaving) ← retire s.dogs dt moved s.retirementTime
      let s := leaving.foldl (fun s (id, r) =>
        { s with dogIndex := s.dogIndex.erase id, names := s.names.erase r.name }) { s with dogs := dogs }
      return (s, .ok ⟨moved.length, count, gathered, leaving.map (·.2)⟩)

end Session

end DogCourier
