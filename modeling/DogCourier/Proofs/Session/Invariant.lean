import DogCourier.Proofs.Session.Spawn

/-! # A consistent session

    A session keeps its world in two stores and two indexes. It is consistent
    (`Session.Sound`) when no two dogs share an id or a name, the id index holds exactly each dog's id with its handle and the name index
    exactly each dog's name with its id, no two items of loot (free or in a bag) share an
    id, every bag is within the map's capacity, and every dog and every free item is on
    the road surface of a map as maps are built. Its counters are ahead (`Session.Inv`)
    when every id it holds lies below the next one it would issue.

    * `new_inv`: a fresh session is consistent and ahead;
    * `join_inv`, `steer_inv`: joining and steering keep both;
    * `restoreDog_sound`, `restoreLoot_sound`: restoring keeps the session consistent,
      whatever the ids, and keeps the counters ahead of ids below them;
    * `setCounters_inv`: counters that are accepted are ahead. -/

namespace DogCourier

namespace Session

/-- The entries the id index holds for a store: each dog's id with its handle. -/
def idEntries (st : Store Dog) : Index Nat := st.slots.toList.map fun e => (e.2.id, e.1)

/-- The entries the name index holds for a store: each dog's name with its id. -/
def nameEntries (st : Store Dog) : Index String := st.items.map fun d => (d.name, d.id)

/-- A consistent session. -/
structure Sound (s : Session) : Prop where
  roads : s.map.roads.Sound
  ids : (s.dogs.items.map (·.id)).Nodup
  dogIndex : s.dogIndex.Perm (idEntries s.dogs)
  names : (s.dogs.items.map (·.name)).Nodup
  nameIndex : s.names.Perm (nameEntries s.dogs)
  lootIds : s.lootIds.Nodup
  bags : ∀ d ∈ s.dogs.items, d.bag.length ≤ s.map.bagCapacity
  onRoad : ∀ d ∈ s.dogs.items,
    s.map.roads.contains d.position = true ∧ s.map.roads.contains d.previous = true
  lootOnRoad : ∀ l ∈ s.loot.items, s.map.roads.contains l.position.toPoint = true

/-- A consistent session whose counters are ahead of every id it holds. -/
structure Inv (s : Session) : Prop extends s.Sound where
  dogsBelow : ∀ d ∈ s.dogs.items, d.id < s.nextDogId
  lootBelow : ∀ i ∈ s.lootIds, i < s.nextLootId

/-! ## Handles, ids and names -/

/-- The handles, ids and names of a store's dogs, in storage order: all the indexes
read. -/
def tags (st : Store Dog) : List (Nat × Nat × String) :=
  st.slots.toList.map fun e => (e.1, e.2.id, e.2.name)

section Tags

variable {st st' : Store Dog}

theorem handles_eq_tags (st : Store Dog) : st.handles = (tags st).map (·.1) := by
  simp [tags, Store.handles, Function.comp_def]

theorem ids_eq_tags (st : Store Dog) : st.items.map (·.id) = (tags st).map (·.2.1) := by
  simp [tags, Function.comp_def]

theorem names_eq_tags (st : Store Dog) : st.items.map (·.name) = (tags st).map (·.2.2) := by
  simp [tags, Function.comp_def]

theorem handles_of_tags (h : tags st' = tags st) : st'.handles = st.handles := by
  have := congrArg (List.map (·.1)) h
  simpa [tags, Store.handles, Function.comp_def] using this

theorem ids_of_tags (h : tags st' = tags st) : st'.items.map (·.id) = st.items.map (·.id) := by
  have := congrArg (List.map (·.2.1)) h
  simpa [tags, Function.comp_def] using this

theorem names_of_tags (h : tags st' = tags st) :
    st'.items.map (·.name) = st.items.map (·.name) := by
  have := congrArg (List.map (·.2.2)) h
  simpa [tags, Function.comp_def] using this

theorem idEntries_of_tags (h : tags st' = tags st) : idEntries st' = idEntries st := by
  have := congrArg (List.map fun t => (t.2.1, t.1)) h
  simpa [tags, idEntries, Function.comp_def] using this

theorem nameEntries_of_tags (h : tags st' = tags st) : nameEntries st' = nameEntries st := by
  have := congrArg (List.map fun t => (t.2.2, t.2.1)) h
  simpa [tags, nameEntries, Function.comp_def] using this

end Tags

variable {s s' : Session}

/-- The id index's keys are the dogs' ids. -/
theorem Sound.mem_dogIndex (hs : s.Sound) {k : Nat} :
    s.dogIndex.mem k = true ↔ k ∈ s.dogs.items.map (·.id) := by
  rw [Index.mem_iff, Index.keys, (hs.dogIndex.map (·.1)).mem_iff]
  simp [idEntries]

/-- The name index's keys are the dogs' names. -/
theorem Sound.mem_names (hs : s.Sound) {k : String} :
    s.names.mem k = true ↔ k ∈ s.dogs.items.map (·.name) := by
  rw [Index.mem_iff, Index.keys, (hs.nameIndex.map (·.1)).mem_iff]
  simp [nameEntries]

/-- Consistency reads only the map, the stores and the indexes. -/
theorem Sound.of_eq (hs : s.Sound) (hmap : s'.map = s.map) (hdogs : s'.dogs = s.dogs)
    (hloot : s'.loot = s.loot) (hix : s'.dogIndex = s.dogIndex) (hnames : s'.names = s.names) :
    s'.Sound := by
  have hl : s'.lootIds = s.lootIds := by simp only [Session.lootIds, hdogs, hloot]
  exact { roads := hmap ▸ hs.roads, ids := hdogs ▸ hs.ids, dogIndex := hix ▸ hdogs ▸ hs.dogIndex, names := hdogs ▸ hs.names
          nameIndex := hnames ▸ hdogs ▸ hs.nameIndex, lootIds := hl ▸ hs.lootIds
          bags := hmap ▸ hdogs ▸ hs.bags, onRoad := hmap ▸ hdogs ▸ hs.onRoad
          lootOnRoad := hmap ▸ hloot ▸ hs.lootOnRoad }

/-- Replacing the dogs by dogs with the same handles, ids and names, and the free loot by
any, keeps a session consistent when the new bags, places and loot are. -/
theorem Sound.withWorld (hs : s.Sound) {dogs : Store Dog} {loot : Store Loot}
    (htags : tags dogs = tags s.dogs)
    (hids : ({ s with dogs := dogs, loot := loot } : Session).lootIds.Nodup)
    (hbags : ∀ d ∈ dogs.items, d.bag.length ≤ s.map.bagCapacity)
    (hroad : ∀ d ∈ dogs.items,
      s.map.roads.contains d.position = true ∧ s.map.roads.contains d.previous = true)
    (hlroad : ∀ l ∈ loot.items, s.map.roads.contains l.position.toPoint = true) :
    ({ s with dogs := dogs, loot := loot } : Session).Sound where
  roads := hs.roads
  ids := (ids_of_tags htags).symm ▸ hs.ids
  dogIndex := (idEntries_of_tags htags).symm ▸ hs.dogIndex
  names := (names_of_tags htags).symm ▸ hs.names
  nameIndex := (nameEntries_of_tags htags).symm ▸ hs.nameIndex
  lootIds := hids
  bags := hbags
  onRoad := hroad
  lootOnRoad := hlroad

/-! ## A fresh session -/

/-- A fresh session on a map as maps are built is consistent, with its counters ahead. -/
theorem new_inv {m : Map} (hm : m.roads.Sound) (settings : Settings) :
    (Session.new m settings).Inv where
  roads := hm
  ids := by simp [Session.new, Store.empty]
  dogIndex := by simp [Session.new, Store.empty, idEntries]
  names := by simp [Session.new, Store.empty]
  nameIndex := by simp [Session.new, Store.empty, nameEntries]
  lootIds := by simp [Session.new, Store.empty, lootIds]
  bags := by simp [Session.new, Store.empty]
  onRoad := by simp [Session.new, Store.empty]
  lootOnRoad := by simp [Session.new, Store.empty]
  dogsBelow := by simp [Session.new, Store.empty]
  lootBelow := by simp [Session.new, Store.empty, lootIds]

/-! ## Inserting a dog -/

section Insert

variable {d : Dog}

@[simp] theorem insertDog_dogs : (s.insertDog d).dogs = (s.dogs.spawn d).1 := rfl
@[simp] theorem insertDog_dogIndex : (s.insertDog d).dogIndex = s.dogIndex.insert d.id s.dogs.fresh :=
  rfl
@[simp] theorem insertDog_names : (s.insertDog d).names = s.names.insert d.name d.id := rfl
@[simp] theorem insertDog_map : (s.insertDog d).map = s.map := rfl
@[simp] theorem insertDog_loot : (s.insertDog d).loot = s.loot := rfl
@[simp] theorem insertDog_nextDogId : (s.insertDog d).nextDogId = s.nextDogId := rfl
@[simp] theorem insertDog_nextLootId : (s.insertDog d).nextLootId = s.nextLootId := rfl

theorem items_insertDog : (s.insertDog d).dogs.items = s.dogs.items ++ [d] := by
  simp

theorem lootIds_insertDog : (s.insertDog d).lootIds = s.lootIds ++ d.bag.map (·.id) := by
  simp [lootIds]

/-- A dog whose id and name are new, whose bag fits and holds new loot ids, and which
stands on the surface, joins a consistent session consistently. -/
theorem Sound.insertDog (hs : s.Sound) (hid : d.id ∉ s.dogs.items.map (·.id))
    (hname : d.name ∉ s.dogs.items.map (·.name)) (hbag : d.bag.length ≤ s.map.bagCapacity)
    (hroad : s.map.roads.contains d.position = true ∧ s.map.roads.contains d.previous = true)
    (hloot : (s.lootIds ++ d.bag.map (·.id)).Nodup) : (s.insertDog d).Sound where
  roads := hs.roads
  ids := by
    rw [items_insertDog, List.map_append, List.map_singleton]
    exact hs.ids.append (List.nodup_singleton _) (List.disjoint_singleton.mpr hid)
  dogIndex := by
    have hk : d.id ∉ s.dogIndex.keys := fun h => hid (hs.mem_dogIndex.mp (Index.mem_iff.mpr h))
    rw [insertDog_dogIndex, Index.insert_of_not_mem hk]
    simpa [idEntries] using (hs.dogIndex.cons _).trans (List.perm_append_singleton _ _).symm
  names := by
    rw [items_insertDog, List.map_append, List.map_singleton]
    exact hs.names.append (List.nodup_singleton _) (List.disjoint_singleton.mpr hname)
  nameIndex := by
    have hk : d.name ∉ s.names.keys := fun h => hname (hs.mem_names.mp (Index.mem_iff.mpr h))
    rw [insertDog_names, Index.insert_of_not_mem hk]
    simpa [nameEntries] using (hs.nameIndex.cons _).trans (List.perm_append_singleton _ _).symm
  lootIds := lootIds_insertDog ▸ hloot
  bags := by
    rw [items_insertDog]
    rintro d' hd'
    rcases List.mem_append.mp hd' with hd' | hd'
    · exact hs.bags d' hd'
    · obtain rfl := List.eq_of_mem_singleton hd'
      exact hbag
  onRoad := by
    rw [items_insertDog]
    rintro d' hd'
    rcases List.mem_append.mp hd' with hd' | hd'
    · exact hs.onRoad d' hd'
    · obtain rfl := List.eq_of_mem_singleton hd'
      exact hroad
  lootOnRoad := hs.lootOnRoad

/-- A dog inserted with ids below the counters keeps them ahead. -/
theorem Inv.insertDog (hs : s.Inv) (hsound : (s.insertDog d).Sound) (hid : d.id < s.nextDogId)
    (hbag : ∀ l ∈ d.bag, l.id < s.nextLootId) : (s.insertDog d).Inv where
  toSound := hsound
  dogsBelow := by
    rw [items_insertDog]
    intro d' hd'
    rcases List.mem_append.mp hd' with hd' | hd'
    · exact hs.dogsBelow d' hd'
    · obtain rfl := List.eq_of_mem_singleton hd'
      exact hid
  lootBelow := by
    rw [lootIds_insertDog]
    intro i hi
    rcases List.mem_append.mp hi with hi | hi
    · exact hs.lootBelow i hi
    · obtain ⟨l, hl, rfl⟩ := List.mem_map.mp hi
      exact hbag l hl

end Insert

/-! ## Joining and steering -/

/-- A join succeeds exactly when the name is free and the dog counter has room; it then issues
the counter's id, moves the counter past it, draws a spawn point and inserts a fresh dog
there. -/
theorem join_eq_ok {name : String} {id : Nat} :
    s.join name = .ok (s', id) ↔ s.names.mem name = false ∧ s.nextDogId + 1 < idLimit ∧
      id = s.nextDogId ∧
      s' = ({ s with nextDogId := s.nextDogId + 1 } : Session).spawnPoint.2.insertDog
        (Dog.fresh s.nextDogId name
          ({ s with nextDogId := s.nextDogId + 1 } : Session).spawnPoint.1) := by
  unfold join
  by_cases hname : s.names.mem name
  · simp [hname]
  · by_cases hroom : s.nextDogId + 1 ≥ idLimit
    · simp [hname, hroom]
    · simp only [if_neg hname, if_neg hroom, Except.ok.injEq, Prod.mk.injEq]
      constructor
      · rintro ⟨rfl, rfl⟩
        exact ⟨Bool.eq_false_iff.mpr hname, Nat.lt_of_not_le hroom, rfl, rfl⟩
      · rintro ⟨-, -, rfl, rfl⟩
        exact ⟨rfl, rfl⟩
/-- Joining keeps a session consistent with its counters ahead: the new dog gets the next
id, a new name, an empty bag and a place on the surface. -/
theorem join_inv (hs : s.Inv) {name : String} {id : Nat} (h : s.join name = .ok (s', id)) :
    s'.Inv := by
  obtain ⟨hname, -, -, rfl⟩ := join_eq_ok.mp h
  obtain ⟨hp, st, hst⟩ := @spawnPoint_contains { s with nextDogId := s.nextDogId + 1 } hs.roads
  rcases hsp : ({ s with nextDogId := s.nextDogId + 1 } : Session).spawnPoint with ⟨p, s₂⟩
  rw [hsp] at hp hst
  dsimp only at hp hst ⊢
  subst hst
  -- the counter moves past the new id before the dog is inserted
  have hinv : ({ s with nextDogId := s.nextDogId + 1, stream := st } : Session).Inv :=
    { toSound := hs.toSound.of_eq rfl rfl rfl rfl rfl
      dogsBelow := fun d hd => Nat.lt_succ_of_lt (hs.dogsBelow d hd)
      lootBelow := hs.lootBelow }
  refine hinv.insertDog (hinv.toSound.insertDog ?_ ?_ ?_ ⟨hp, hp⟩ (by simpa [Dog.fresh] using hinv.lootIds))
    (Nat.lt_succ_self _) (by simp [Dog.fresh])
  · intro hmem
    obtain ⟨d, hd, heq⟩ := List.mem_map.mp hmem
    exact absurd (hs.dogsBelow d hd) (by simp [Dog.fresh] at heq; omega)
  · intro hmem
    have htaken := hs.mem_names.mpr hmem
    simp [Dog.fresh, hname] at htaken
  · simp [Dog.fresh]

/-- Changing one dog in a way that keeps its id, name, bag and places keeps a session
consistent, with its counters ahead. -/
theorem Inv.modifyDog (hs : s.Inv) {h : Nat} {f : Dog → Dog}
    (hf : ∀ d, (f d).id = d.id ∧ (f d).name = d.name ∧ (f d).bag = d.bag ∧
      (f d).position = d.position ∧ (f d).previous = d.previous) :
    ({ s with dogs := s.dogs.modify h f } : Session).Inv := by
  have htags : tags (s.dogs.modify h f) = tags s.dogs := by
    simp only [tags, Store.modify_slots, List.map_map]
    apply List.map_congr_left
    intro e _
    by_cases he : e.1 = h <;> simp [he, (hf e.2).1, (hf e.2).2.1]
  have hbags : (s.dogs.modify h f).items.map (fun d => d.bag.map (·.id)) =
      s.dogs.items.map (fun d => d.bag.map (·.id)) :=
    Store.map_items_modify f _ fun d => by rw [(hf d).2.2.1]
  have hloot : ({ s with dogs := s.dogs.modify h f } : Session).lootIds = s.lootIds := by
    simp only [lootIds, hbags]
  refine { toSound := hs.toSound.withWorld htags (hloot ▸ hs.lootIds) ?_ ?_ hs.lootOnRoad
           dogsBelow := ?_, lootBelow := hloot ▸ hs.lootBelow }
  · intro d' hd'
    obtain ⟨d, hd, e | e⟩ := Store.mem_items_modify f hd' <;> rw [e]
    · exact (hf d).2.2.1 ▸ hs.bags d hd
    · exact hs.bags d hd
  · intro d' hd'
    obtain ⟨d, hd, e | e⟩ := Store.mem_items_modify f hd' <;> rw [e]
    · rw [(hf d).2.2.2.1, (hf d).2.2.2.2]
      exact hs.onRoad d hd
    · exact hs.onRoad d hd
  · intro d' hd'
    obtain ⟨d, hd, e | e⟩ := Store.mem_items_modify f hd' <;> rw [e]
    · exact (hf d).1 ▸ hs.dogsBelow d hd
    · exact hs.dogsBelow d hd

/-- Steering succeeds exactly when the id is indexed at a live handle, and then changes only
the dog there, steered at the map's speed. -/
theorem steer_eq_ok {id : Nat} {c : Steer} : s.steer id c = .ok s' ↔
    ∃ h, s.dogIndex.find? id = some h ∧ s.dogs.has h = true ∧
      s' = { s with dogs := s.dogs.modify h fun d => d.steer c s.map.dogSpeed } := by
  unfold steer
  constructor
  · intro hst
    split at hst
    · rename_i h hfind
      split at hst
      · rename_i hhas
        exact ⟨h, hfind, hhas, (Except.ok.inj hst).symm⟩
      · cases hst
    · cases hst
  · rintro ⟨h, hfind, hhas, rfl⟩
    simp only [hfind, hhas, if_true]
/-- Steering keeps a session consistent with its counters ahead: it changes only a
dog's velocity and facing. -/
theorem steer_inv (hs : s.Inv) {id : Nat} {c : Steer} (h : s.steer id c = .ok s') : s'.Inv := by
  obtain ⟨_, -, -, rfl⟩ := steer_eq_ok.mp h
  exact hs.modifyDog fun d => by cases c <;> simp [Dog.steer]

/-- Drawing a spawn point keeps the session's map. -/
theorem spawnPoint_map (s : Session) : s.spawnPoint.2.map = s.map := by
  unfold spawnPoint
  dsimp only
  split
  · rfl
  · split <;> rfl

theorem join_map {name : String} {id : Nat} (h : s.join name = .ok (s', id)) : s'.map = s.map := by
  obtain ⟨-, -, -, rfl⟩ := join_eq_ok.mp h
  exact spawnPoint_map _

theorem steer_map {id : Nat} {c : Steer} (h : s.steer id c = .ok s') : s'.map = s.map := by
  obtain ⟨_, -, -, rfl⟩ := steer_eq_ok.mp h
  rfl

/-! ## Restoring -/

/-- A bag with no clash has ids that are new and distinct. -/
theorem nodup_of_firstClash : ∀ {seen : List Nat} {bag : List Loot}, seen.Nodup →
    firstClash seen bag = none → (seen ++ bag.map (·.id)).Nodup
  | _, [], hseen, _ => by simpa using hseen
  | seen, l :: rest, hseen, h => by
    unfold firstClash at h
    split at h
    · cases h
    · rename_i hc
      have hl : l.id ∉ seen := by simpa using hc
      have hrest := nodup_of_firstClash (List.nodup_cons.mpr ⟨hl, hseen⟩) h
      rw [List.map_cons]
      exact List.perm_middle.nodup_iff.mpr hrest

/-- A restored dog passed every check and was inserted. -/
theorem restoreDog_eq_ok {d : Dog} (h : s.restoreDog d = .ok s') :
    s' = s.insertDog d ∧ s.dogIndex.mem d.id = false ∧ s.names.mem d.name = false ∧
      d.bag.length ≤ s.map.bagCapacity ∧
      (s.map.roads.contains d.position = true ∧ s.map.roads.contains d.previous = true) ∧
      firstClash s.lootIds d.bag = none := by
  unfold restoreDog at h
  dsimp only at h
  split at h
  · cases h
  · rename_i hid
    split at h
    · cases h
    · rename_i hname
      split at h
      · cases h
      · rename_i hbag
        split at h
        · cases h
        · rename_i hroad
          split at h
          · cases h
          · rename_i hclash
            cases h
            simp only [Bool.not_eq_true] at hid hname
            simp only [Bool.and_eq_true, Bool.not_eq_true', Bool.not_eq_false] at hroad
            exact ⟨rfl, hid, hname, by omega, hroad, hclash⟩

/-- Restoring a dog keeps a session consistent, whatever its ids: the checks refuse a
dog that would break it. -/
theorem restoreDog_sound (hs : s.Sound) {d : Dog} (h : s.restoreDog d = .ok s') : s'.Sound := by
  obtain ⟨rfl, hid, hname, hbag, hroad, hclash⟩ := restoreDog_eq_ok h
  exact hs.insertDog (fun hm => by simp [hs.mem_dogIndex.mpr hm] at hid)
    (fun hm => by simp [hs.mem_names.mpr hm] at hname) hbag hroad
    (nodup_of_firstClash hs.lootIds hclash)

/-- Restoring a dog whose ids lie below the counters keeps them ahead. -/
theorem restoreDog_inv (hs : s.Inv) {d : Dog} (hid : d.id < s.nextDogId)
    (hbag : ∀ l ∈ d.bag, l.id < s.nextLootId) (h : s.restoreDog d = .ok s') : s'.Inv := by
  have hsound := restoreDog_sound hs.toSound h
  obtain ⟨rfl, -⟩ := restoreDog_eq_ok h
  exact hs.insertDog hsound hid hbag

/-- Restored loot passed both checks and was put down. -/
theorem restoreLoot_eq_ok {l : Loot} (h : s.restoreLoot l = .ok s') :
    s' = { s with loot := (s.loot.spawn l).1 } ∧ l.id ∉ s.lootIds ∧
      s.map.roads.contains l.position.toPoint = true := by
  unfold restoreLoot at h
  split at h
  · cases h
  · rename_i hid
    split at h
    · cases h
    · rename_i hroad
      cases h
      simp only [Bool.not_eq_true, List.contains_eq_mem, decide_eq_false_iff_not] at hid
      simp only [Bool.not_eq_true', Bool.not_eq_false] at hroad
      exact ⟨rfl, hid, hroad⟩

theorem lootIds_spawnLoot (l : Loot) :
    ({ s with loot := (s.loot.spawn l).1 } : Session).lootIds.Perm (l.id :: s.lootIds) := by
  simp only [lootIds, Store.items_eq, Store.spawn_slots, List.map_append, List.map_map]
  simp [List.perm_middle]

/-- Restoring loot keeps a session consistent, whatever its id. -/
theorem restoreLoot_sound (hs : s.Sound) {l : Loot} (h : s.restoreLoot l = .ok s') : s'.Sound := by
  obtain ⟨rfl, hid, hroad⟩ := restoreLoot_eq_ok h
  exact { hs with
    lootIds := (lootIds_spawnLoot l).nodup_iff.mpr (List.nodup_cons.mpr ⟨hid, hs.lootIds⟩)
    lootOnRoad := fun l' hl' => by
      simp only [Store.items_eq, Store.spawn_slots, List.map_append, List.mem_append] at hl'
      rcases hl' with hl' | hl'
      · exact hs.lootOnRoad l' (by simpa using hl')
      · simp only [List.map_cons, List.map_nil, List.mem_singleton] at hl'
        subst hl'
        exact hroad }

/-- Restoring loot whose id lies below the loot counter keeps the counters ahead. -/
theorem restoreLoot_inv (hs : s.Inv) {l : Loot} (hid : l.id < s.nextLootId)
    (h : s.restoreLoot l = .ok s') : s'.Inv := by
  have hsound := restoreLoot_sound hs.toSound h
  obtain ⟨rfl, -⟩ := restoreLoot_eq_ok h
  refine { toSound := hsound, dogsBelow := hs.dogsBelow, lootBelow := fun i hi => ?_ }
  rcases List.mem_cons.mp ((lootIds_spawnLoot l).subset hi) with rfl | hi
  · exact hid
  · exact hs.lootBelow i hi

/-! ## Counters -/

theorem le_foldl_max : ∀ (L : List Nat) (x : Nat), x ≤ L.foldl max x ∧ ∀ y ∈ L, y ≤ L.foldl max x
  | [], x => ⟨le_rfl, by simp⟩
  | z :: L, x => by
    obtain ⟨h₁, h₂⟩ := le_foldl_max L (max x z)
    refine ⟨le_trans (le_max_left x z) h₁, ?_⟩
    intro y hy
    rcases List.mem_cons.mp hy with rfl | hy
    · exact le_trans (le_max_right x y) h₁
    · exact h₂ y hy

/-- The largest number of a list is at least each of them. -/
theorem le_largest {L : List Nat} {m : Nat} (h : largest L = some m) : ∀ y ∈ L, y ≤ m := by
  cases L with
  | nil => cases h
  | cons x L =>
    simp only [largest, Option.some.injEq] at h
    subst h
    intro y hy
    rcases List.mem_cons.mp hy with rfl | hy
    · exact (le_foldl_max L y).1
    · exact (le_foldl_max L x).2 y hy

theorem largest_eq_none {L : List Nat} (h : largest L = none) : L = [] := by
  cases L with
  | nil => rfl
  | cons x L => cases h

/-- Accepted counters are set, and each exceeds every id of its kind present. -/
theorem setCounters_eq_ok {a b : Nat} (h : s.setCounters a b = .ok s') :
    s' = { s with nextDogId := a, nextLootId := b } ∧ (∀ k ∈ s.dogIndex.keys, k < a) ∧
      ∀ i ∈ s.lootIds, i < b := by
  -- the loot counter is checked last, whatever the dog counter's check found
  have hloot : setCounters.lootStep s a b = .ok s' →
      s' = { s with nextDogId := a, nextLootId := b } ∧ ∀ i ∈ s.lootIds, i < b := by
    intro h'
    unfold setCounters.lootStep at h'
    split at h'
    · rename_i m hm
      split at h'
      · cases h'
      · cases h'
        exact ⟨rfl, fun i hi => by have := le_largest hm i hi; omega⟩
    · rename_i hm
      cases h'
      exact ⟨rfl, by simp [largest_eq_none hm]⟩
  unfold setCounters at h
  split at h
  · rename_i m hm
    split at h
    · cases h
    · obtain ⟨rfl, hb⟩ := hloot h
      exact ⟨rfl, fun k hk => by have := le_largest hm k hk; omega, hb⟩
  · rename_i hm
    obtain ⟨rfl, hb⟩ := hloot h
    exact ⟨rfl, by simp [largest_eq_none hm], hb⟩

/-- Counters that are accepted are ahead of every id a consistent session holds. -/
theorem setCounters_inv (hs : s.Sound) {a b : Nat} (h : s.setCounters a b = .ok s') : s'.Inv := by
  obtain ⟨rfl, ha, hb⟩ := setCounters_eq_ok h
  refine { toSound := hs.of_eq rfl rfl rfl rfl rfl, dogsBelow := fun d hd => ?_, lootBelow := hb }
  apply ha
  rw [← Index.mem_iff, hs.mem_dogIndex]
  exact List.mem_map_of_mem hd

end Session

end DogCourier
