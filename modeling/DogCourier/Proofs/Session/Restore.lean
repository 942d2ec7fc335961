import DogCourier.Save.Restore
import DogCourier.Proofs.Session.Invariant

/-! # Sessions rebuilt from what is saved of them

    What is saved of a session is its map id, its counters, its free loot in id order and
    its dogs in id order, each dog with its doubles by their bit patterns. A consistent
    session passes every check of its own rebuilding: on the map it is on, each of its dogs
    is taken back, then each item, and the counters are accepted; and the session this gives
    is saved exactly as the first one was.

    * `SavedDog.toDog_ofDog`: a saved dog restores to the same dog, doubles bit for bit;
    * `Sound.dogList_eq`: a consistent session lists its dogs in id order;
    * `foldlM_restoreDog`, `foldlM_restoreLoot`, `setCounters_of_ahead`: dogs, items and
      counters that pass the checks are taken back as they are;
    * `Session.rebuilt`, `Game.rebuild_eq`: what rebuilding gives, stage by stage: the
      dogs, then the free loot, then the counters put back on a fresh session;
    * `Game.rebuild_saved`: a consistent session is rebuilt into a consistent session on
      the same map that saves as it does. -/

namespace DogCourier

@[simp] theorem Coords.toPoint_ofPoint (p : Point) : (Coords.ofPoint p).toPoint = p := by
  simp [Coords.ofPoint, Coords.toPoint]

/-- A saved dog restores to the dog that was saved, its positions bit for bit. -/
@[simp] theorem SavedDog.toDog_ofDog (d : Dog) : (SavedDog.ofDog d).toDog = d := by
  simp [SavedDog.ofDog, SavedDog.toDog]

namespace Session

variable {s : Session}

/-! ## Each check passes -/

/-- A bag whose ids are new and distinct has no clash. -/
theorem firstClash_eq_none : ∀ {seen : List Nat} {bag : List Loot},
    (seen ++ bag.map (·.id)).Nodup → firstClash seen bag = none
  | _, [], _ => rfl
  | seen, l :: rest, h => by
    have hmid : (l.id :: seen ++ rest.map (·.id)).Nodup := by
      rw [List.map_cons] at h
      exact List.perm_middle.nodup_iff.mp h
    have hl : l.id ∉ seen := (List.nodup_cons.mp (List.nodup_append.mp hmid).1).1
    rw [firstClash, if_neg (by simpa using hl)]
    exact firstClash_eq_none hmid

/-- A dog whose id and name are new, whose bag fits and holds new and distinct loot ids,
and which stands on the roads, is taken back into a consistent session. -/
theorem restoreDog_of_fresh (hs : s.Sound) {d : Dog} (hid : d.id ∉ s.dogs.items.map (·.id))
    (hname : d.name ∉ s.dogs.items.map (·.name)) (hbag : d.bag.length ≤ s.map.bagCapacity)
    (hroad : s.map.roads.contains d.position = true ∧ s.map.roads.contains d.previous = true)
    (hloot : (s.lootIds ++ d.bag.map (·.id)).Nodup) :
    s.restoreDog d = .ok (s.insertDog d) := by
  have hix : s.dogIndex.mem d.id = false := by
    cases h : s.dogIndex.mem d.id
    · rfl
    · exact absurd (hs.mem_dogIndex.mp h) hid
  have hnames : s.names.mem d.name = false := by
    cases h : s.names.mem d.name
    · rfl
    · exact absurd (hs.mem_names.mp h) hname
  unfold restoreDog
  simp [hix, hnames, Nat.not_lt.mpr hbag, hroad, firstClash_eq_none hloot]

/-- An item whose id is new and which lies on the roads is put back. -/
theorem restoreLoot_of_fresh {l : Loot} (hid : l.id ∉ s.lootIds)
    (hroad : s.map.roads.contains l.position.toPoint = true) :
    s.restoreLoot l = .ok { s with loot := (s.loot.spawn l).1 } := by
  unfold restoreLoot
  simp [hid, hroad]

/-- The largest number of a list is one of them. -/
theorem foldl_max_mem (L : List Nat) (x : Nat) : L.foldl max x ∈ x :: L := by
  induction L generalizing x with
  | nil => exact List.mem_singleton_self x
  | cons y L ih =>
    rw [List.foldl_cons]
    rcases List.mem_cons.mp (ih (max x y)) with h | h
    · rw [h]
      rcases Nat.le_total x y with hxy | hyx
      · rw [Nat.max_eq_right hxy]
        exact List.mem_cons_of_mem _ List.mem_cons_self
      · rw [Nat.max_eq_left hyx]
        exact List.mem_cons_self
    · exact List.mem_cons_of_mem _ (List.mem_cons_of_mem _ h)

theorem largest_mem {L : List Nat} {m : Nat} (h : largest L = some m) : m ∈ L := by
  cases L with
  | nil => cases h
  | cons x L =>
    simp only [largest, Option.some.injEq] at h
    exact h ▸ foldl_max_mem L x

/-- Counters ahead of every id a consistent session holds are accepted. -/
theorem setCounters_of_ahead (hs : s.Sound) {a b : Nat} (ha : ∀ d ∈ s.dogs.items, d.id < a)
    (hb : ∀ i ∈ s.lootIds, i < b) :
    s.setCounters a b = .ok { s with nextDogId := a, nextLootId := b } := by
  -- the loot counter is checked last, after the dog counter passed
  have hloot : setCounters.lootStep s a b = .ok { s with nextDogId := a, nextLootId := b } := by
    unfold setCounters.lootStep
    split
    · rename_i m hm
      rw [if_neg (Nat.not_le.mpr (hb m (largest_mem hm)))]
    · rfl
  unfold setCounters
  split
  · rename_i m hm
    have hk : m ∈ s.dogs.items.map (·.id) := hs.mem_dogIndex.mp (Index.mem_iff.mpr (largest_mem hm))
    obtain ⟨d, hd, rfl⟩ := List.mem_map.mp hk
    rw [if_neg (Nat.not_le.mpr (ha d hd))]
    exact hloot
  · exact hloot

/-! ## The dogs in id order -/

/-- Sorting by a number key gives a list in key order. -/
theorem pairwise_mergeSort_key {α : Type} (key : α → Nat) (l : List α) :
    (l.mergeSort fun a b => key a ≤ key b).Pairwise fun a b => (decide (key a ≤ key b)) = true :=
  List.pairwise_mergeSort (fun _ _ _ hab hbc => by simp at hab hbc ⊢; omega)
    (fun a b => by simpa using Nat.le_total (key a) (key b)) l

/-- Sorting by a number key again changes nothing. -/
theorem mergeSort_mergeSort_key {α : Type} (key : α → Nat) (l : List α) :
    (l.mergeSort fun a b => key a ≤ key b).mergeSort (fun a b => key a ≤ key b) =
      l.mergeSort fun a b => key a ≤ key b :=
  List.mergeSort_of_pairwise (pairwise_mergeSort_key key l)

/-- In a consistent session, a dog's id finds the dog. -/
theorem Sound.dog_id (hs : s.Sound) {d : Dog} (hd : d ∈ s.dogs.items) : s.dog d.id = some d := by
  rw [Store.items_eq] at hd
  obtain ⟨⟨h, d'⟩, hmem, rfl⟩ := List.mem_map.mp hd
  have hkeys : s.dogIndex.keys.Nodup := by
    rw [Index.keys, (hs.dogIndex.map Prod.fst).nodup_iff]
    simpa [idEntries, Function.comp_def] using hs.ids
  have hentry : (d'.id, h) ∈ s.dogIndex :=
    hs.dogIndex.symm.subset (List.mem_map.mpr ⟨(h, d'), hmem, rfl⟩)
  rw [Session.dog, (Index.find?_eq_some_iff hkeys).mpr hentry, Option.bind_some]
  exact Store.get?_eq_some_of_mem hmem

/-- A consistent session lists its dogs in id order. -/
theorem Sound.dogList_eq (hs : s.Sound) :
    s.dogList = s.dogs.items.mergeSort fun a b => a.id ≤ b.id := by
  have hkeys : s.dogIndex.keys.Perm (s.dogs.items.map (·.id)) := by
    simpa [Index.keys, idEntries, Function.comp_def] using hs.dogIndex.map Prod.fst
  have hmap : (s.dogs.items.mergeSort fun a b => a.id ≤ b.id).map (·.id) =
      (s.dogs.items.map (·.id)).mergeSort fun a b => a ≤ b :=
    List.map_mergeSort fun _ _ _ _ => rfl
  -- the index's keys, sorted, are the dogs' ids in order: sorting forgets the index's order
  have hsorted : s.dogIndex.keys.mergeSort (fun a b => a ≤ b) =
      (s.dogs.items.mergeSort fun a b => a.id ≤ b.id).map (·.id) := by
    rw [hmap]
    have htrans : ∀ a b c : Nat, decide (a ≤ b) = true → decide (b ≤ c) = true → decide (a ≤ c) = true :=
      fun _ _ _ hab hbc => by simp at hab hbc ⊢; omega
    have htotal : ∀ a b : Nat, (decide (a ≤ b) || decide (b ≤ a)) = true :=
      fun a b => by simpa using Nat.le_total a b
    apply List.Perm.eq_of_pairwise
      (fun a b _ _ (hab : decide (a ≤ b) = true) (hba : decide (b ≤ a) = true) =>
        Nat.le_antisymm (of_decide_eq_true hab) (of_decide_eq_true hba))
      (List.pairwise_mergeSort htrans htotal _) (List.pairwise_mergeSort htrans htotal _)
    exact (List.mergeSort_perm _ _).trans (hkeys.trans (List.mergeSort_perm _ _).symm)
  rw [Session.dogList, hsorted, List.filterMap_map]
  -- each id in the list finds its own dog
  have hfind : ∀ d ∈ s.dogs.items.mergeSort (fun a b => a.id ≤ b.id), (s.dog ∘ (·.id)) d = some d :=
    fun d hd => hs.dog_id (List.mem_mergeSort.mp hd)
  rw [List.filterMap_congr hfind, List.filterMap_some]

/-- A consistent session lists each of its dogs once. -/
theorem Sound.dogList_perm (hs : s.Sound) : s.dogList.Perm s.dogs.items :=
  hs.dogList_eq ▸ List.mergeSort_perm _ _

/-! ## Dogs and items taken back one after another -/

/-- Dogs that a session takes back one after another: ids and names new and distinct, bags
within capacity holding new and distinct loot ids, every dog on the roads. -/
structure Admits (s : Session) (ds : List Dog) : Prop where
  ids : (s.dogs.items.map (·.id) ++ ds.map (·.id)).Nodup
  names : (s.dogs.items.map (·.name) ++ ds.map (·.name)).Nodup
  lootIds : (s.lootIds ++ ds.flatMap fun d => d.bag.map (·.id)).Nodup
  bags : ∀ d ∈ ds, d.bag.length ≤ s.map.bagCapacity
  onRoad : ∀ d ∈ ds,
    s.map.roads.contains d.position = true ∧ s.map.roads.contains d.previous = true

section Admits

variable {d : Dog} {ds : List Dog}

theorem not_mem_of_nodup_append_cons {α : Type} {A B : List α} {a : α} (h : (A ++ a :: B).Nodup) :
    a ∉ A :=
  fun ha => List.disjoint_of_nodup_append h ha List.mem_cons_self

/-- The first of the dogs passes every check. -/
theorem Admits.restoreDog (hs : s.Sound) (h : s.Admits (d :: ds)) :
    s.restoreDog d = .ok (s.insertDog d) := by
  have hloot : (s.lootIds ++ d.bag.map (·.id)).Nodup := by
    have := h.lootIds
    rw [List.flatMap_cons, ← List.append_assoc] at this
    exact this.sublist (List.sublist_append_left _ _)
  exact restoreDog_of_fresh hs (not_mem_of_nodup_append_cons (by simpa using h.ids))
    (not_mem_of_nodup_append_cons (by simpa using h.names)) (h.bags d List.mem_cons_self)
    (h.onRoad d List.mem_cons_self) hloot

/-- Once the first dog is in, the session admits the others. -/
theorem Admits.insertDog (h : s.Admits (d :: ds)) : (s.insertDog d).Admits ds where
  ids := by simpa [items_insertDog] using h.ids
  names := by simpa [items_insertDog] using h.names
  lootIds := by simpa [lootIds_insertDog] using h.lootIds
  bags := fun d' hd' => h.bags d' (List.mem_cons_of_mem _ hd')
  onRoad := fun d' hd' => h.onRoad d' (List.mem_cons_of_mem _ hd')

/-- Taking back the first dog keeps a session consistent. -/
theorem Admits.sound_insertDog (hs : s.Sound) (h : s.Admits (d :: ds)) : (s.insertDog d).Sound :=
  restoreDog_sound hs (h.restoreDog hs)

end Admits

/-- Inserting dogs one after another adds them to the store and the indexes and leaves the
rest of the session as it was. -/
theorem foldl_insertDog (ds : List Dog) (s : Session) :
    ∃ dogs dogIndex names, ds.foldl insertDog s =
      { s with dogs := dogs, dogIndex := dogIndex, names := names } ∧
      dogs.items = s.dogs.items ++ ds := by
  induction ds generalizing s with
  | nil => exact ⟨s.dogs, s.dogIndex, s.names, rfl, by simp⟩
  | cons d ds ih =>
    obtain ⟨dogs, dogIndex, names, heq, hitems⟩ := ih (s.insertDog d)
    refine ⟨dogs, dogIndex, names, heq, ?_⟩
    rw [hitems, items_insertDog, List.append_assoc, List.singleton_append]

/-- Dogs a consistent session admits leave it consistent once all are in. -/
theorem Admits.foldl_sound {ds : List Dog} (hs : s.Sound) (h : s.Admits ds) :
    (ds.foldl Session.insertDog s).Sound := by
  induction ds generalizing s with
  | nil => exact hs
  | cons d ds ih => exact ih (h.sound_insertDog hs) h.insertDog

/-- Dogs a consistent session admits are taken back one after another, each as it is, by any
step that agrees with `restoreDog` where it succeeds. -/
theorem foldlM_restoreDog {ε : Type} {f : Session → Dog → Except ε Session}
    (hf : ∀ t d t', t.restoreDog d = .ok t' → f t d = .ok t') (ds : List Dog) {s : Session}
    (hs : s.Sound) (h : s.Admits ds) : ds.foldlM f s = .ok (ds.foldl insertDog s) := by
  induction ds generalizing s with
  | nil => rfl
  | cons d ds ih =>
    rw [List.foldlM_cons, hf _ _ _ (h.restoreDog hs)]
    exact ih (h.sound_insertDog hs) h.insertDog

/-- The first of items whose ids are new and distinct, and which lie on the roads, is put
back, and the ids of the others are still new. -/
theorem restoreLoot_cons {l : Loot} {ls : List Loot} (hids : (s.lootIds ++ (l :: ls).map (·.id)).Nodup)
    (hroad : s.map.roads.contains l.position.toPoint = true) :
    s.restoreLoot l = .ok { s with loot := (s.loot.spawn l).1 } ∧
      (({ s with loot := (s.loot.spawn l).1 } : Session).lootIds ++ ls.map (·.id)).Nodup := by
  have hid : l.id ∉ s.lootIds := not_mem_of_nodup_append_cons (by simpa using hids)
  refine ⟨restoreLoot_of_fresh hid hroad, ?_⟩
  -- the item's id joins the ids present
  apply ((lootIds_spawnLoot l).append_right _).nodup_iff.mpr
  simpa [List.perm_middle.nodup_iff] using hids

/-- Items whose ids are new and distinct and which lie on the roads leave a consistent
session consistent once all are put back. -/
theorem foldl_spawn_sound {ls : List Loot} (hs : s.Sound) (hids : (s.lootIds ++ ls.map (·.id)).Nodup)
    (hroad : ∀ l ∈ ls, s.map.roads.contains l.position.toPoint = true) :
    ({ s with loot := ls.foldl (fun st l => (st.spawn l).1) s.loot } : Session).Sound := by
  induction ls generalizing s with
  | nil => exact hs
  | cons l ls ih =>
    obtain ⟨hl, hrest⟩ := restoreLoot_cons hids (hroad l List.mem_cons_self)
    exact ih (restoreLoot_sound hs hl) hrest fun l' hl' => hroad l' (List.mem_cons_of_mem _ hl')

/-- Items whose ids are new and distinct and which lie on the roads are put back one after
another, each as it is, by any step that agrees with `restoreLoot` where it succeeds. -/
theorem foldlM_restoreLoot {ε : Type} {f : Session → Loot → Except ε Session}
    (hf : ∀ t l t', t.restoreLoot l = .ok t' → f t l = .ok t') (ls : List Loot) {s : Session}
    (hids : (s.lootIds ++ ls.map (·.id)).Nodup)
    (hroad : ∀ l ∈ ls, s.map.roads.contains l.position.toPoint = true) :
    ls.foldlM f s = .ok { s with loot := ls.foldl (fun st l => (st.spawn l).1) s.loot } := by
  induction ls generalizing s with
  | nil => rfl
  | cons l ls ih =>
    obtain ⟨hl, hrest⟩ := restoreLoot_cons hids (hroad l List.mem_cons_self)
    rw [List.foldlM_cons, hf _ _ _ hl]
    exact ih hrest fun l' hl' => hroad l' (List.mem_cons_of_mem _ hl')

/-- Storing items one after another appends them. -/
theorem items_foldl_spawn (ls : List Loot) (st : Store Loot) :
    (ls.foldl (fun st l => (st.spawn l).1) st).items = st.items ++ ls := by
  induction ls generalizing st with
  | nil => simp
  | cons l ls ih =>
    rw [List.foldl_cons, ih]
    simp

end Session

/-! ## A consistent session rebuilt -/

namespace Session

variable {s : Session} (settings : Settings)

/-- A fresh session on the map of `s`, with the dogs of `s` taken back in id order. -/
def dogsBack (s : Session) (settings : Settings) : Session :=
  s.dogList.foldl insertDog (Session.new s.map settings)

/-- Then with the free loot of `s` put back in id order. -/
def lootBack (s : Session) (settings : Settings) : Session :=
  { s.dogsBack settings with
    loot := s.lootList.foldl (fun st l => (st.spawn l).1) (s.dogsBack settings).loot }

/-- Then with the counters of `s`: what rebuilding `s` from what is saved of it gives. -/
def rebuilt (s : Session) (settings : Settings) : Session :=
  { s.lootBack settings with nextDogId := s.nextDogId, nextLootId := s.nextLootId }

theorem dogsBack_eq (s : Session) : ∃ dogs dogIndex names,
    s.dogsBack settings =
      { Session.new s.map settings with dogs := dogs, dogIndex := dogIndex, names := names } ∧
      dogs.items = s.dogList := by
  obtain ⟨dogs, dogIndex, names, heq, hitems⟩ := foldl_insertDog s.dogList (Session.new s.map settings)
  exact ⟨dogs, dogIndex, names, heq, by simpa [Session.new, Store.empty] using hitems⟩

@[simp] theorem map_lootBack : (s.lootBack settings).map = s.map := by
  obtain ⟨_, _, _, heq, -⟩ := dogsBack_eq settings s
  show (s.dogsBack settings).map = s.map
  rw [heq]
  rfl

@[simp] theorem dogs_lootBack : (s.lootBack settings).dogs.items = s.dogList := by
  obtain ⟨_, _, _, heq, hitems⟩ := dogsBack_eq settings s
  show (s.dogsBack settings).dogs.items = s.dogList
  rw [heq]
  exact hitems

@[simp] theorem loot_lootBack : (s.lootBack settings).loot.items = s.lootList := by
  obtain ⟨_, _, _, heq, -⟩ := dogsBack_eq settings s
  show (s.lootList.foldl (fun st l => (st.spawn l).1) (s.dogsBack settings).loot).items = s.lootList
  rw [items_foldl_spawn, heq]
  simp [Session.new, Store.empty]

theorem lootIds_dogsBack :
    (s.dogsBack settings).lootIds = s.dogList.flatMap fun d : Dog => d.bag.map Loot.id := by
  obtain ⟨dogs, dogIndex, names, heq, hitems⟩ := dogsBack_eq settings s
  rw [heq]
  show (Session.new s.map settings).loot.items.map Loot.id ++
    (dogs.items.map fun d : Dog => d.bag.map Loot.id).flatten = _
  rw [hitems]
  simp [Session.new, Store.empty, List.flatMap_def]

/-- A consistent session's dogs, in id order, pass every check of the fresh session on its
map. -/
theorem Inv.admits (hs : s.Inv) : (Session.new s.map settings).Admits s.dogList where
  ids := by simpa [Session.new, Store.empty] using (hs.dogList_perm.map _).nodup_iff.mpr hs.ids
  names := by simpa [Session.new, Store.empty] using (hs.dogList_perm.map _).nodup_iff.mpr hs.names
  lootIds := by
    have hsub : (s.dogs.items.flatMap fun d => d.bag.map (·.id)).Nodup :=
      hs.lootIds.sublist (List.sublist_append_right _ _)
    show ([] ++ s.dogList.flatMap fun d : Dog => d.bag.map Loot.id).Nodup
    rw [List.nil_append, (hs.dogList_perm.flatMap_right _).nodup_iff]
    exact hsub
  bags := fun d hd => hs.bags d (hs.dogList_perm.subset hd)
  onRoad := fun d hd => hs.onRoad d (hs.dogList_perm.subset hd)

/-- The ids in the bags of a consistent session's dogs, and those of its free loot, both in
id order, are its loot ids. -/
theorem Inv.lootIds_perm (hs : s.Inv) :
    ((s.dogList.flatMap fun d : Dog => d.bag.map Loot.id) ++ s.lootList.map Loot.id).Perm
      s.lootIds :=
  ((hs.dogList_perm.flatMap_right _).append ((List.mergeSort_perm _ _).map _)).trans
    List.perm_append_comm

/-- The free loot of a consistent session, in id order, is new beside its dogs' bags and lies
on the roads, so it is put back one item after another. -/
theorem Inv.lootBack_fresh (hs : s.Inv) :
    ((s.dogsBack settings).lootIds ++ s.lootList.map Loot.id).Nodup ∧
      ∀ l ∈ s.lootList, (s.dogsBack settings).map.roads.contains l.position.toPoint = true := by
  obtain ⟨_, _, _, heq, -⟩ := dogsBack_eq settings s
  refine ⟨?_, fun l hl => ?_⟩
  · rw [lootIds_dogsBack]
    exact hs.lootIds_perm.nodup_iff.mpr hs.lootIds
  · rw [heq]
    exact hs.lootOnRoad l ((List.mergeSort_perm _ _).subset hl)

theorem Inv.lootBack_sound (hs : s.Inv) : (s.lootBack settings).Sound :=
  foldl_spawn_sound ((hs.admits settings).foldl_sound (new_inv hs.roads settings).toSound)
    (hs.lootBack_fresh settings).1 (hs.lootBack_fresh settings).2

/-- The rebuilt session holds the loot ids of the first one. -/
theorem Inv.lootIds_lootBack (hs : s.Inv) : (s.lootBack settings).lootIds.Perm s.lootIds := by
  show ((s.lootBack settings).loot.items.map Loot.id ++
    ((s.lootBack settings).dogs.items.map fun d : Dog => d.bag.map Loot.id).flatten).Perm _
  rw [loot_lootBack, dogs_lootBack, ← List.flatMap_def]
  exact List.perm_append_comm.trans hs.lootIds_perm

/-- The counters of a consistent session are ahead of every id its dogs and loot hold once
put back, so they are accepted. -/
theorem Inv.setCounters_lootBack (hs : s.Inv) :
    (s.lootBack settings).setCounters s.nextDogId s.nextLootId = .ok (s.rebuilt settings) :=
  setCounters_of_ahead (hs.lootBack_sound settings)
    (fun d hd => hs.dogsBelow d (hs.dogList_perm.subset (dogs_lootBack settings ▸ hd)))
    (fun i hi => hs.lootBelow i ((hs.lootIds_lootBack settings).subset hi))

theorem Inv.rebuilt_inv (hs : s.Inv) : (s.rebuilt settings).Inv :=
  setCounters_inv (hs.lootBack_sound settings) (hs.setCounters_lootBack settings)

@[simp] theorem map_rebuilt : (s.rebuilt settings).map = s.map := map_lootBack settings

/-- The rebuilt session is saved as the first one: sorting what is already sorted by id
changes nothing. -/
theorem Inv.saved_rebuilt (hs : s.Inv) : (s.rebuilt settings).saved = s.saved := by
  have hdogList : (s.rebuilt settings).dogList = s.dogList := by
    rw [Sound.dogList_eq (hs.rebuilt_inv settings).toSound]
    show (s.lootBack settings).dogs.items.mergeSort _ = _
    rw [dogs_lootBack, hs.dogList_eq, mergeSort_mergeSort_key Dog.id]
  have hlootList : (s.rebuilt settings).lootList = s.lootList := by
    show (s.lootBack settings).loot.items.mergeSort _ = _
    rw [loot_lootBack, lootList, mergeSort_mergeSort_key Loot.id]
  show (⟨(s.rebuilt settings).map.id, s.nextDogId, s.nextLootId, (s.rebuilt settings).lootList,
    (s.rebuilt settings).dogList.map SavedDog.ofDog⟩ : SavedSession) =
      ⟨s.map.id, s.nextDogId, s.nextLootId, s.lootList, s.dogList.map SavedDog.ofDog⟩
  rw [map_rebuilt, hlootList, hdogList]

end Session

namespace Game

variable {g : Game} {s : Session}

/-- A consistent session is rebuilt, on a game whose map of that id is the session's map,
into its dogs, then its free loot, then its counters put back on a fresh session. -/
theorem rebuild_eq (hs : s.Inv) (hmap : g.findMap s.mapId = some s.map) :
    g.rebuild s.saved = .ok (s.rebuilt g.settings) := by
  obtain ⟨hids, hroad⟩ := hs.lootBack_fresh g.settings
  have hcounters := hs.setCounters_lootBack g.settings
  unfold Session.dogsBack at hids hroad
  unfold Session.lootBack Session.dogsBack at hcounters
  unfold Game.rebuild
  simp only [Session.saved, hmap, List.foldlM_map, SavedDog.toDog_ofDog]
  -- each step agrees with the session's own restore where that succeeds
  rw [Session.foldlM_restoreDog ?_ s.dogList (Session.new_inv hs.roads g.settings).toSound
    (hs.admits g.settings)]
  · simp only [bind, Except.bind]
    rw [Session.foldlM_restoreLoot ?_ s.lootList hids hroad]
    · simp only
      rw [hcounters]
    · intro t l t' h
      rw [h]
  · intro t d t' h
    rw [h]

/-- A consistent session is rebuilt, on a game whose map of that id is the session's map, into
a consistent session on the same map that is saved exactly as the first one: its dogs, its
free loot and its counters come back as they were. -/
theorem rebuild_saved (hs : s.Inv) (hmap : g.findMap s.mapId = some s.map) :
    ∃ t, g.rebuild s.saved = .ok t ∧ t.saved = s.saved ∧ t.Inv ∧ t.map = s.map :=
  ⟨_, rebuild_eq hs hmap, hs.saved_rebuilt g.settings, hs.rebuilt_inv g.settings,
    Session.map_rebuilt g.settings⟩

end Game

end DogCourier
