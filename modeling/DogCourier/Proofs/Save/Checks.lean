import DogCourier.Save.Restore
import Mathlib

/-! # The checks a saved game must pass

    Restoring a saved game checks it in a fixed order and refuses it at the first check
    that fails. This module writes that order down on the saved data alone, with no
    session in sight. A check is whether it passes and the refusal it gives when it does
    not; a save's checks are listed in the order restoring makes them:

    * the version; then each saved session in order: its map id is new, its map exists,
      then its dogs in order (id new, name new, bag within capacity, both positions on a
      road, each bag item's id new beside every id before it), its free loot in order (id
      new beside the bags and the loot before it, on a road), its dog counter and its loot
      counter;
    * `firstFailing`: the refusal of the first check that fails;
    * `SaveData.Restorable`: what a save must satisfy, said with `Nodup` and bounds;
    * `firstFailing_checks_eq_none`: no check fails exactly when the save is restorable. -/

namespace DogCourier

section Refusals

variable {ε ε' : Type}

/-- The refusal of the first failing check, in order; a check is whether it passes and the
refusal it gives when it does not. -/
def firstFailing (cs : List (Bool × ε)) : Option ε := (cs.find? fun c => !c.1).map (·.2)

@[simp] theorem firstFailing_nil : firstFailing ([] : List (Bool × ε)) = none := rfl

@[simp] theorem firstFailing_cons (b : Bool) (e : ε) (cs : List (Bool × ε)) :
    firstFailing ((b, e) :: cs) = if b then firstFailing cs else some e := by
  cases b <;> simp [firstFailing]

@[simp] theorem firstFailing_append (cs ds : List (Bool × ε)) :
    firstFailing (cs ++ ds) = (firstFailing cs).or (firstFailing ds) := by
  simp only [firstFailing, List.find?_append, Option.map_or]

theorem firstFailing_map (f : ε → ε') (cs : List (Bool × ε)) :
    firstFailing (cs.map fun c => (c.1, f c.2)) = (firstFailing cs).map f := by
  induction cs with
  | nil => rfl
  | cons c cs ih =>
    rw [List.map_cons, firstFailing_cons, ih]
    obtain ⟨b, e⟩ := c
    cases b <;> rfl

/-- No check fails exactly when every check passes. -/
theorem firstFailing_eq_none {cs : List (Bool × ε)} :
    firstFailing cs = none ↔ ∀ c ∈ cs, c.1 = true := by
  simp [firstFailing, List.find?_eq_none]

end Refusals

section Fresh

variable {κ : Type}

/-- Each key is new beside `before` and the keys ahead of it. -/
def Fresh (before : List κ) : List κ → Prop
  | [] => True
  | k :: rest => k ∉ before ∧ Fresh (before ++ [k]) rest

theorem fresh_iff : ∀ {before l : List κ}, Fresh before l ↔ l.Nodup ∧ ∀ k ∈ l, k ∉ before
  | _, [] => by simp [Fresh]
  | before, k :: rest => by
    rw [Fresh, fresh_iff, List.nodup_cons, List.forall_mem_cons]
    simp only [List.mem_append, List.mem_singleton, not_or]
    constructor
    · rintro ⟨hk, hnd, hrest⟩
      exact ⟨⟨fun h => (hrest k h).2 rfl, hnd⟩, hk, fun j hj => (hrest j hj).1⟩
    · rintro ⟨⟨hk, hnd⟩, hkb, hrest⟩
      exact ⟨hkb, hnd, fun j hj => ⟨hrest j hj, fun h => hk (h ▸ hj)⟩⟩

theorem fresh_nil_iff {l : List κ} : Fresh [] l ↔ l.Nodup := by
  simp [fresh_iff]

theorem fresh_append : ∀ {before l₁ l₂ : List κ},
    Fresh before (l₁ ++ l₂) ↔ Fresh before l₁ ∧ Fresh (before ++ l₁) l₂
  | _, [], _ => by simp [Fresh]
  | before, k :: l₁, l₂ => by
    rw [List.cons_append, Fresh, Fresh, fresh_append, List.append_assoc, List.singleton_append,
      and_assoc]

end Fresh

namespace SavedSession

/-- The loot ids in the bags of saved dogs, dog by dog. -/
def bagIds (ds : List SavedDog) : List Nat := ds.flatMap fun d => d.bag.map (·.id)

/-- Every loot id of a saved session: the bags', then the free loot's. -/
def lootIds (ss : SavedSession) : List Nat := bagIds ss.dogs ++ ss.loot.map (·.id)

/-- The checks of a bag's items in order: each id is new beside `seen` and the items
ahead of it. -/
def itemChecks : List Nat → List Loot → List (Bool × SessionError)
  | _, [] => []
  | seen, l :: rest =>
    (!seen.contains l.id, .duplicateLootId l.id) :: itemChecks (seen ++ [l.id]) rest

/-- The checks of a saved dog on map `m`, against the dogs saved before it. -/
def dogChecks (m : Map) (before : List SavedDog) (d : SavedDog) : List (Bool × SessionError) :=
  (!(before.map (·.id)).contains d.id, .duplicateDogId d.id) ::
  (!(before.map (·.name)).contains d.name, .duplicateDogName d.name) ::
  (decide (d.bag.length ≤ m.bagCapacity), .bagOverCapacity d.id d.bag.length m.bagCapacity) ::
  (m.roads.contains d.position.toPoint && m.roads.contains d.previous.toPoint, .offRoad d.id) ::
  itemChecks (bagIds before) d.bag

/-- The checks of saved dogs in order, each against the dogs before it. -/
def dogsChecks (m : Map) : List SavedDog → List SavedDog → List (Bool × SessionError)
  | _, [] => []
  | before, d :: rest => dogChecks m before d ++ dogsChecks m (before ++ [d]) rest

/-- The checks of saved free loot in order: its id is new beside the ids in the bags and
those of the loot before it, and it lies on a road. -/
def lootChecks (m : Map) (inBags : List Nat) : List Loot → List Loot → List (Bool × SessionError)
  | _, [] => []
  | before, l :: rest =>
    (!(inBags ++ before.map (·.id)).contains l.id, .duplicateLootId l.id) ::
      (m.roads.contains l.position.toPoint, .lootOffRoad l.id) ::
      lootChecks m inBags (before ++ [l]) rest

/-- The checks of the counters: each exceeds every id of its kind, and a refusal names the
largest. -/
def counterChecks (ss : SavedSession) : List (Bool × SessionError) :=
  [(decide (∀ i ∈ ss.dogs.map SavedDog.id, i < ss.nextDogId),
      .counterBehind .dog ss.nextDogId ((Session.largest (ss.dogs.map SavedDog.id)).getD 0)),
    (decide (∀ i ∈ ss.lootIds, i < ss.nextLootId),
      .counterBehind .loot ss.nextLootId ((Session.largest ss.lootIds).getD 0))]

/-- The checks of a saved session on map `m`: its dogs, its free loot, its counters. -/
def checks (m : Map) (ss : SavedSession) : List (Bool × SessionError) :=
  dogsChecks m [] ss.dogs ++ lootChecks m (bagIds ss.dogs) [] ss.loot ++ counterChecks ss

/-- A saved session that fits map `m`: distinct dog ids and names, bags within capacity,
dogs and free loot on the roads, distinct loot ids over the bags and the free loot, and
counters ahead of every id. -/
structure ConsistentOn (m : Map) (ss : SavedSession) : Prop where
  ids : (ss.dogs.map (·.id)).Nodup
  names : (ss.dogs.map (·.name)).Nodup
  bags : ∀ d ∈ ss.dogs, d.bag.length ≤ m.bagCapacity
  dogsOnRoad : ∀ d ∈ ss.dogs,
    m.roads.contains d.position.toPoint = true ∧ m.roads.contains d.previous.toPoint = true
  lootOnRoad : ∀ l ∈ ss.loot, m.roads.contains l.position.toPoint = true
  lootIds : ss.lootIds.Nodup
  dogCounter : ∀ d ∈ ss.dogs, d.id < ss.nextDogId
  lootCounter : ∀ i ∈ ss.lootIds, i < ss.nextLootId

section Pass

variable {m : Map}

theorem itemChecks_pass : ∀ {seen : List Nat} {bag : List Loot},
    (∀ c ∈ itemChecks seen bag, c.1 = true) ↔ Fresh seen (bag.map (·.id))
  | _, [] => by simp [itemChecks, Fresh]
  | seen, l :: rest => by
    rw [itemChecks, List.forall_mem_cons, itemChecks_pass, List.map_cons, Fresh]
    simp

theorem bagIds_cons (d : SavedDog) (ds : List SavedDog) :
    bagIds (d :: ds) = d.bag.map (·.id) ++ bagIds ds := List.flatMap_cons

theorem bagIds_append_singleton (ds : List SavedDog) (d : SavedDog) :
    bagIds (ds ++ [d]) = bagIds ds ++ d.bag.map (·.id) := by
  simp [bagIds]

/-- The dogs' checks pass exactly when ids, names and bag items are new beside the dogs
before and among themselves, and each dog fits and stands on the roads. -/
theorem dogsChecks_pass : ∀ {before ds : List SavedDog},
    (∀ c ∈ dogsChecks m before ds, c.1 = true) ↔
      Fresh (before.map (·.id)) (ds.map (·.id)) ∧ Fresh (before.map (·.name)) (ds.map (·.name)) ∧
        Fresh (bagIds before) (bagIds ds) ∧
        ∀ d ∈ ds, d.bag.length ≤ m.bagCapacity ∧
          m.roads.contains d.position.toPoint = true ∧ m.roads.contains d.previous.toPoint = true
  | _, [] => by simp [dogsChecks, Fresh, bagIds]
  | before, d :: rest => by
    rw [dogsChecks, List.forall_mem_append, dogsChecks_pass, bagIds_cons, fresh_append,
      bagIds_append_singleton]
    simp only [dogChecks, List.forall_mem_cons, itemChecks_pass, List.map_cons, List.map_append,
      Fresh, List.forall_mem_cons]
    simp only [List.contains_eq_mem, Bool.not_eq_eq_eq_not, Bool.not_true, decide_eq_false_iff_not,
      decide_eq_true_eq, Bool.and_eq_true]
    constructor
    · rintro ⟨⟨hid, hname, hcap, hroad, hitems⟩, hids, hnames, hbags, hrest⟩
      exact ⟨⟨hid, hids⟩, ⟨hname, hnames⟩, ⟨hitems, hbags⟩, ⟨hcap, hroad⟩, hrest⟩
    · rintro ⟨⟨hid, hids⟩, ⟨hname, hnames⟩, ⟨hitems, hbags⟩, ⟨hcap, hroad⟩, hrest⟩
      exact ⟨⟨hid, hname, hcap, hroad, hitems⟩, hids, hnames, hbags, hrest⟩

/-- The free loot's checks pass exactly when its ids are new beside the bags, the loot
before and one another, and it lies on the roads. -/
theorem lootChecks_pass {inBags : List Nat} : ∀ {before ls : List Loot},
    (∀ c ∈ lootChecks m inBags before ls, c.1 = true) ↔
      Fresh (inBags ++ before.map (·.id)) (ls.map (·.id)) ∧
        ∀ l ∈ ls, m.roads.contains l.position.toPoint = true
  | _, [] => by simp [lootChecks, Fresh]
  | before, l :: rest => by
    rw [lootChecks, List.forall_mem_cons, List.forall_mem_cons, lootChecks_pass, List.map_cons,
      Fresh, List.forall_mem_cons, List.map_append, List.map_singleton, List.append_assoc]
    simp only [List.contains_eq_mem, Bool.not_eq_eq_eq_not, Bool.not_true, decide_eq_false_iff_not]
    constructor
    · rintro ⟨hid, hroad, hids, hrest⟩
      exact ⟨⟨hid, hids⟩, hroad, hrest⟩
    · rintro ⟨⟨hid, hids⟩, hroad, hrest⟩
      exact ⟨hid, hroad, hids, hrest⟩

theorem counterChecks_pass {ss : SavedSession} :
    (∀ c ∈ counterChecks ss, c.1 = true) ↔
      (∀ d ∈ ss.dogs, d.id < ss.nextDogId) ∧ ∀ i ∈ ss.lootIds, i < ss.nextLootId := by
  simp [counterChecks]

/-- A saved session's checks on `m` pass exactly when it fits `m`. -/
theorem checks_pass {ss : SavedSession} : (∀ c ∈ ss.checks m, c.1 = true) ↔ ss.ConsistentOn m := by
  have hnil : bagIds [] = [] := rfl
  rw [checks, List.forall_mem_append, List.forall_mem_append, dogsChecks_pass, lootChecks_pass,
    counterChecks_pass]
  simp only [List.map_nil, List.append_nil, hnil, fresh_nil_iff]
  -- the loot ids are new over the bags, then over the free loot
  have hloot : ss.lootIds.Nodup ↔
      (bagIds ss.dogs).Nodup ∧ Fresh (bagIds ss.dogs) (ss.loot.map (·.id)) := by
    rw [lootIds, ← fresh_nil_iff, fresh_append, List.nil_append, fresh_nil_iff]
  constructor
  · rintro ⟨⟨⟨hids, hnames, hbags, hdogs⟩, hfresh, hroad⟩, hdc, hlc⟩
    exact ⟨hids, hnames, fun d hd => (hdogs d hd).1, fun d hd => (hdogs d hd).2, hroad,
      hloot.mpr ⟨hbags, hfresh⟩, hdc, hlc⟩
  · intro h
    exact ⟨⟨⟨h.ids, h.names, (hloot.mp h.lootIds).1, fun d hd => ⟨h.bags d hd, h.dogsOnRoad d hd⟩⟩,
      (hloot.mp h.lootIds).2, h.lootOnRoad⟩, h.dogCounter, h.lootCounter⟩

end Pass

end SavedSession

namespace SaveData

/-- The checks of a saved session of `g` once its map id is new: its map exists, and then
its own checks on that map. -/
def mapChecks (g : Game) (ss : SavedSession) : List (Bool × SaveError) :=
  match g.findMap ss.mapId with
  | none => [(false, .unknownMap ss.mapId)]
  | some m => (ss.checks m).map fun c => (c.1, .corrupt ss.mapId c.2)

/-- The checks of saved sessions in order, each map id against those before it. -/
def sessionChecks (g : Game) : List String → List SavedSession → List (Bool × SaveError)
  | _, [] => []
  | seen, ss :: rest =>
    (!seen.contains ss.mapId, .duplicateSession ss.mapId) ::
      (mapChecks g ss ++ sessionChecks g (seen ++ [ss.mapId]) rest)

/-- Every check of a saved game on `g`, in the order restoring makes them. -/
def checks (g : Game) (d : SaveData) : List (Bool × SaveError) :=
  (d.version == saveVersion, .versionMismatch d.version) :: sessionChecks g [] d.sessions

/-- A saved game that restoring accepts on `g`: the current version, distinct map ids, and
every saved session fits a map of `g`. -/
structure Restorable (g : Game) (d : SaveData) : Prop where
  version : d.version = saveVersion
  distinct : (d.sessions.map (·.mapId)).Nodup
  sessions : ∀ ss ∈ d.sessions, ∃ m, g.findMap ss.mapId = some m ∧ ss.ConsistentOn m

section Pass

variable {g : Game}

theorem mapChecks_pass {ss : SavedSession} :
    (∀ c ∈ mapChecks g ss, c.1 = true) ↔ ∃ m, g.findMap ss.mapId = some m ∧ ss.ConsistentOn m := by
  unfold mapChecks
  cases g.findMap ss.mapId with
  | none => simp
  | some m =>
    simp only [List.forall_mem_map, SavedSession.checks_pass, Option.some.injEq, exists_eq_left']

theorem sessionChecks_pass : ∀ {seen : List String} {sss : List SavedSession},
    (∀ c ∈ sessionChecks g seen sss, c.1 = true) ↔
      Fresh seen (sss.map (·.mapId)) ∧ ∀ ss ∈ sss, ∃ m, g.findMap ss.mapId = some m ∧ ss.ConsistentOn m
  | _, [] => by simp [sessionChecks, Fresh]
  | seen, ss :: rest => by
    rw [sessionChecks, List.forall_mem_cons, List.forall_mem_append, mapChecks_pass,
      sessionChecks_pass, List.map_cons, Fresh, List.forall_mem_cons]
    simp only [List.contains_eq_mem, Bool.not_eq_eq_eq_not, Bool.not_true, decide_eq_false_iff_not]
    constructor
    · rintro ⟨hid, hmap, hfresh, hrest⟩
      exact ⟨⟨hid, hfresh⟩, hmap, hrest⟩
    · rintro ⟨⟨hid, hfresh⟩, hmap, hrest⟩
      exact ⟨hid, hmap, hfresh, hrest⟩

/-- No check of a saved game fails exactly when it is restorable. -/
theorem firstFailing_checks_eq_none {d : SaveData} :
    firstFailing (d.checks g) = none ↔ d.Restorable g := by
  rw [firstFailing_eq_none, checks, List.forall_mem_cons, sessionChecks_pass, fresh_nil_iff,
    beq_iff_eq]
  constructor
  · rintro ⟨hv, hd, hs⟩
    exact ⟨hv, hd, hs⟩
  · rintro ⟨hv, hd, hs⟩
    exact ⟨hv, hd, hs⟩

end Pass

end SaveData

end DogCourier
