import DogCourier.Config.Build
import DogCourier.Random.Stream
import DogCourier.World.Store
import DogCourier.Session.Entity
import DogCourier.Session.Error

/-! # Sessions

    A session is one map's world: its dogs and its free loot in two stores, an index
    from dog ids to dog handles, an index from names to dog ids, the two id counters
    (ids start at 0 and are issued in order), the loot supply, the random stream seeded
    from the game seed and the map id, and the retirement time.

    * Joining refuses a name in use, then refuses when the dog counter is at the last
      64-bit value, and only then picks the spawn point: the first road's start, or with
      random spawning a random point of a random road.
    * Queries go through the indexes; the listing of dogs is in id order and the listing
      of loot in id order, stable among equal ids.
    * Restoring a dog checks, in order: its id is new, its name is new, its bag fits, its
      position and previous position are on a road, and no loot id in its bag is already
      present (on the ground or in a bag) or repeated. Restoring loot checks that its id
      is new and that it lies on a road. New counters must exceed every dog id in the
      index and every loot id present. -/

namespace DogCourier

/-- The first number no 64-bit counter reaches. -/
def idLimit : Nat := Nat.pow 2 64

/-- One map's world. -/
structure Session where
  map : Map
  dogs : Store Dog
  loot : Store Loot
  dogIndex : Index Nat
  names : Index String
  nextDogId : Nat
  nextLootId : Nat
  supply : Supply
  stream : Stream
  retirementTime : Duration
  randomizeSpawn : Bool
  deriving Inhabited

/-- The free loot and the dogs of a session, each in id order. -/
structure SessionState where
  dogs : List Dog
  loot : List Loot

namespace Session

/-- A fresh session on `map`: no dogs, no loot, counters at zero. A game with no seed draws
one from the system's entropy in the running program; here it is seeded with 0, since no
run could reproduce those draws. -/
def new (map : Map) (settings : Settings) : Session :=
  { map := map, dogs := Store.empty, loot := Store.empty, dogIndex := [], names := []
    nextDogId := 0, nextLootId := 0
    supply := Supply.new (map.supply.getD settings.supply)
    stream := Stream.ofSeed (Stream.sessionSeed (settings.seed.getD 0) map.id)
    retirementTime := settings.retirementTime, randomizeSpawn := settings.randomizeSpawn }

/-- The map's id. -/
def mapId (s : Session) : String := s.map.id

/-- Where a new dog appears. -/
def spawnPoint (s : Session) : Point × Session :=
  let roads := s.map.roads.roads
  if s.randomizeSpawn && !roads.isEmpty then
    let (i, stream) := s.stream.below roads.size
    let (t, stream) := stream.unit
    ((roads[i]!).pointAt t, { s with stream := stream })
  else
    match roads[0]? with
    | some r => (r.start.toPoint, s)
    | none => (Point.origin, s)

/-- Stores a dog and indexes its id and name. -/
def insertDog (s : Session) (d : Dog) : Session :=
  let (dogs, h) := s.dogs.spawn d
  { s with dogs := dogs, dogIndex := s.dogIndex.insert d.id h, names := s.names.insert d.name d.id }

/-- Adds a new dog named `name` and returns its id. -/
def join (s : Session) (name : String) : Except SessionError (Session × Nat) :=
  if s.names.mem name then .error (.duplicateDogName name)
  else
    let id := s.nextDogId
    if id + 1 ≥ idLimit then .error (.idOverflow .dog)
    else
      let s := { s with nextDogId := id + 1 }
      let (p, s) := s.spawnPoint
      .ok (s.insertDog (Dog.fresh id name p), id)

/-- Applies a movement request to the dog with id `id`. -/
def steer (s : Session) (id : Nat) (c : Steer) : Except SessionError Session :=
  match s.dogIndex.find? id with
  | some h =>
    if s.dogs.has h then .ok { s with dogs := s.dogs.modify h fun d => d.steer c s.map.dogSpeed }
    else .error (.unknownDog id)
  | none => .error (.unknownDog id)

/-- The dog with id `id`. -/
def dog (s : Session) (id : Nat) : Option Dog := (s.dogIndex.find? id).bind s.dogs.get?

/-- The dog named `name`. -/
def dogNamed (s : Session) (name : String) : Option Dog := (s.names.find? name).bind s.dog

/-- The indexed dogs in id order. -/
def dogList (s : Session) : List Dog :=
  (s.dogIndex.keys.mergeSort fun a b => a ≤ b).filterMap s.dog

/-- The free loot in id order, stable among equal ids. -/
def lootList (s : Session) : List Loot := s.loot.items.mergeSort fun a b => a.id ≤ b.id

/-- The dogs and free loot, each in id order. -/
def state (s : Session) : SessionState := ⟨s.dogList, s.lootList⟩

/-- The number of indexed dogs. -/
def dogCount (s : Session) : Nat := s.dogIndex.length

/-- The number of free loot items. -/
def lootCount (s : Session) : Nat := s.loot.size

/-- Every loot id present: on the ground, then in each bag. -/
def lootIds (s : Session) : List Nat :=
  s.loot.items.map (·.id) ++ (s.dogs.items.map fun d => d.bag.map (·.id)).flatten

/-- The first loot whose id is in `seen` or repeats an earlier one. -/
def firstClash (seen : List Nat) : List Loot → Option Nat
  | [] => none
  | l :: rest => if seen.contains l.id then some l.id else firstClash (l.id :: seen) rest

/-- Inserts a saved dog as it was, after the checks; the counters are untouched. -/
def restoreDog (s : Session) (d : Dog) : Except SessionError Session :=
  let capacity := s.map.bagCapacity
  if s.dogIndex.mem d.id then .error (.duplicateDogId d.id)
  else if s.names.mem d.name then .error (.duplicateDogName d.name)
  else if d.bag.length > capacity then .error (.bagOverCapacity d.id d.bag.length capacity)
  else if !(s.map.roads.contains d.position && s.map.roads.contains d.previous) then
    .error (.offRoad d.id)
  else match firstClash s.lootIds d.bag with
    | some i => .error (.duplicateLootId i)
    | none => .ok (s.insertDog d)

/-- Puts saved free loot back on the map, after the checks. -/
def restoreLoot (s : Session) (l : Loot) : Except SessionError Session :=
  if s.lootIds.contains l.id then .error (.duplicateLootId l.id)
  else if !s.map.roads.contains l.position.toPoint then .error (.lootOffRoad l.id)
  else .ok { s with loot := (s.loot.spawn l).1 }

/-- The largest number of a list. -/
def largest : List Nat → Option Nat
  | [] => none
  | x :: rest => some (rest.foldl max x)

/-- Sets the counters, which must exceed every id present. -/
def setCounters (s : Session) (nextDog nextLoot : Nat) : Except SessionError Session :=
  match largest s.dogIndex.keys with
  | some m =>
    if nextDog ≤ m then .error (.counterBehind .dog nextDog m) else lootStep
  | none => lootStep
where
  lootStep : Except SessionError Session :=
    match largest s.lootIds with
    | some m =>
      if nextLoot ≤ m then .error (.counterBehind .loot nextLoot m)
      else .ok { s with nextDogId := nextDog, nextLootId := nextLoot }
    | none => .ok { s with nextDogId := nextDog, nextLootId := nextLoot }

end Session

end DogCourier
