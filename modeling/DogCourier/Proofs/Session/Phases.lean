import DogCourier.Proofs.Session.Invariant
import DogCourier.Proofs.Session.Loot

/-! # Consistency through a tick

    Each phase of a tick keeps a session consistent with its counters ahead
    (`Session.Inv`), and so does a whole tick, whatever its outcome: refused by the road
    graph, refused by the loot counter, or through to the end.

    * `moveDogs_inv`: movement changes only places and velocities, and clamping keeps
      the places on the roads;
    * `spawnLoot_inv`: new items take the ids from the loot counter on, above every id
      held, and land on the roads;
    * `gather_inv`: gathering moves items from the ground into bags and out of bags,
      never past a bag's capacity;
    * `retire_inv`: a retiring dog leaves the store and both indexes together;
    * `tick_inv`: a whole tick. -/

namespace DogCourier

namespace Session

variable {s s' : Session}

/-- The loot ids of a session are the ids of its free items and of the items in its bags. -/
theorem lootIds_eq (s : Session) : s.lootIds = (s.loot.items ++ bags s.dogs).map (·.id) := by
  simp [lootIds, bags, List.flatMap_def, Function.comp_def]

/-- Items no more than a session's, free or bagged, have distinct ids below its loot
counter. -/
theorem Inv.lootIds_of_le (hs : s.Inv) {items : List Loot}
    (hle : (items : Multiset Loot) ≤ (s.loot.items ++ bags s.dogs : List Loot)) :
    (items.map (·.id)).Nodup ∧ ∀ i ∈ items.map (·.id), i < s.nextLootId := by
  have hids : ((items.map (·.id) : List Nat) : Multiset Nat) ≤ s.lootIds := by
    rw [lootIds_eq, ← Multiset.map_coe, ← Multiset.map_coe]
    exact Multiset.map_le_map hle
  exact ⟨Multiset.coe_nodup.mp (Multiset.nodup_of_le hids (Multiset.coe_nodup.mpr hs.lootIds)),
    fun i hi => hs.lootBelow i (Multiset.mem_of_le hids hi)⟩

/-! ## Movement -/

section Movement

variable {roads : RoadNet} {seconds : Float} {dogs dogs' : Store Dog} {moved : List Nat}

/-- A dog with no velocity plans no move; any other plans to go where the clamp of its
heading ends, blocked when that is not where it was heading. -/
theorem plan_eq_ok {d : Dog} {p : Option (Point × Bool)} : plan roads seconds d = .ok p ↔
    (d.velocity.isZero = true ∧ p = none) ∨
      (d.velocity.isZero = false ∧ ∃ reached,
        roads.clamp d.position (d.position + d.velocity.toVec.scale seconds) = .ok reached ∧
        p = some (reached, !(reached == d.position + d.velocity.toVec.scale seconds))) := by
  unfold plan
  cases hz : d.velocity.isZero with
  | true => simp [eq_comm]
  | false =>
    cases hclamp : roads.clamp d.position (d.position + d.velocity.toVec.scale seconds) with
    | error e => simp [hclamp]
    | ok reached => simp [hclamp, eq_comm]
/-- A planned move that starts on the road surface ends there. -/
theorem plan_contains (hnet : roads.Sound) {d : Dog} {reached : Point} {blocked : Bool}
    (hd : roads.contains d.position = true)
    (h : plan roads seconds d = .ok (some (reached, blocked))) : roads.contains reached = true := by
  rcases plan_eq_ok.mp h with ⟨-, hp⟩ | ⟨-, r, hr, hp⟩
  · cases hp
  · obtain ⟨rfl, -⟩ := Prod.mk.inj (Option.some.inj hp)
    exact clamp_contains hnet.narrow hd hr

/-- Every dog after movement is a dog of the store advanced by its own plan. -/
theorem mem_moveDogs (h : moveDogs roads seconds dogs = .ok (dogs', moved)) {d' : Dog}
    (hd' : d' ∈ dogs'.items) :
    ∃ d ∈ dogs.items, ∃ p, plan roads seconds d = .ok p ∧ d' = advance d p := by
  obtain ⟨plans, hF, rfl, -⟩ := moveDogs_eq_ok.mp h
  simp only [Store.items_eq, Store.zipValues_slots, List.map_map] at hd'
  obtain ⟨⟨e, p⟩, hep, rfl⟩ := List.mem_map.mp hd'
  exact ⟨e.2, List.mem_map_of_mem (List.of_mem_zip hep).1, p, (List.forall₂_iff_zip.mp hF).2 hep, rfl⟩

theorem moveDogs_fresh (h : moveDogs roads seconds dogs = .ok (dogs', moved)) :
    dogs'.fresh = dogs.fresh := by
  obtain ⟨plans, -, rfl, -⟩ := moveDogs_eq_ok.mp h
  rfl

/-- Movement keeps every dog on the road surface: a dog that stays keeps its place, one
that moves is clamped to the roads, and its previous place is the place it left. -/
theorem moveDogs_onRoad (hnet : roads.Sound) (h : moveDogs roads seconds dogs = .ok (dogs', moved))
    (hon : ∀ d ∈ dogs.items, roads.contains d.position = true) :
    ∀ d ∈ dogs'.items, roads.contains d.position = true ∧ roads.contains d.previous = true := by
  intro d' hd'
  obtain ⟨d, hd, p, hp, rfl⟩ := mem_moveDogs h hd'
  rcases p with _ | ⟨reached, blocked⟩
  · exact ⟨hon d hd, hon d hd⟩
  · exact ⟨plan_contains hnet (hon d hd) hp, hon d hd⟩

end Movement

/-- Stores with the same accounts have the same tags. -/
theorem tags_of_accounts_eq {st st' : Store Dog} (h : st'.accounts = st.accounts) :
    tags st' = tags st := by
  have := congrArg (List.map fun a => (a.1, a.2.1, a.2.2.1)) h
  simpa [tags, Store.accounts, Dog.account, Function.comp_def] using this

/-- A dog of a store is a dog of any store with the same accounts, up to its account. -/
theorem mem_of_accounts_eq {st st' : Store Dog} (h : st'.accounts = st.accounts) {d' : Dog}
    (hd' : d' ∈ st'.items) : ∃ d ∈ st.items, d'.account = d.account := by
  have hd'' : d' ∈ st'.slots.toList.map (·.2) := hd'
  obtain ⟨e, he, rfl⟩ := List.mem_map.mp hd''
  have hmem : (e.1, e.2.account) ∈ st.accounts := h ▸ List.mem_map_of_mem he
  obtain ⟨e', he', heq⟩ := List.mem_map.mp hmem
  exact ⟨e'.2, List.mem_map_of_mem he', (Prod.mk.inj heq).2.symm⟩

/-- Movement keeps a session consistent with its counters ahead. -/
theorem moveDogs_inv (hs : s.Inv) {seconds : Float} {dogs : Store Dog} {moved : List Nat}
    (h : moveDogs s.map.roads seconds s.dogs = .ok (dogs, moved)) :
    ({ s with dogs := dogs } : Session).Inv := by
  have hacc := moveDogs_accounts h
  have hloot : ({ s with dogs := dogs } : Session).lootIds = s.lootIds := by
    rw [lootIds_eq, lootIds_eq, Store.bags_of_accounts_eq hacc]
  -- every dog after movement has the account of a dog before it
  have hback : ∀ d' ∈ dogs.items, ∃ d ∈ s.dogs.items, d'.id = d.id ∧ d'.bag = d.bag := by
    intro d' hd'
    obtain ⟨d, hd, heq⟩ := mem_of_accounts_eq hacc hd'
    exact ⟨d, hd, congrArg (·.1) heq, congrArg (·.2.2.2) heq⟩
  refine { toSound := hs.toSound.withWorld (tags_of_accounts_eq hacc) (hloot ▸ hs.lootIds) ?_ (moveDogs_onRoad hs.roads h fun d hd => (hs.onRoad d hd).1)
             hs.lootOnRoad
           dogsBelow := ?_, lootBelow := hloot ▸ hs.lootBelow }
  · intro d' hd'
    obtain ⟨d, hd, -, hbag⟩ := hback d' hd'
    exact hbag ▸ hs.bags d hd
  · intro d' hd'
    obtain ⟨d, hd, hid, -⟩ := hback d' hd'
    exact hid ▸ hs.dogsBelow d hd

/-! ## Spawning -/

/-- Placing `n` new items with the next ids of the loot counter, and moving the counter past
them, keeps a session consistent with its counters ahead, whatever the supply and the
stream become. -/
theorem Inv.placeLoot (hs : s.Inv) (sup : Supply) (n : Nat) (st st' : Stream) :
    ({ s with
        supply := sup
        loot := (Session.placeLoot s.map.roads.roads s.map.lootKinds.length n s.nextLootId s.loot st).1
        stream := st'
        nextLootId := s.nextLootId + n } : Session).Inv := by
  obtain ⟨new, hitems, hids⟩ :=
    placeLoot_items s.map.roads.roads s.map.lootKinds.length n s.nextLootId s.loot st
  -- the new ids follow the counter, so they are distinct from each other and from every id held
  have hperm : ({ s with
        supply := sup
        loot := (Session.placeLoot s.map.roads.roads s.map.lootKinds.length n s.nextLootId s.loot st).1
        stream := st'
        nextLootId := s.nextLootId + n } : Session).lootIds.Perm
      (s.lootIds ++ List.range' s.nextLootId n) := by
    rw [lootIds_eq, lootIds_eq]
    simp only [hitems, List.map_append, hids, List.append_assoc]
    exact List.perm_append_comm.append_left _ |>.trans (by simp)
  have hnew : ∀ i ∈ List.range' s.nextLootId n, s.nextLootId ≤ i ∧ i < s.nextLootId + n := by
    intro i hi
    simpa using List.mem_range'_1.mp hi
  refine { roads := hs.roads, ids := hs.ids, dogIndex := hs.dogIndex, names := hs.names, nameIndex := hs.nameIndex
           lootIds := hperm.nodup_iff.mpr ?_
           bags := hs.bags, onRoad := hs.onRoad
           lootOnRoad := placeLoot_onRoad hs.roads _ _ _ _ _ hs.lootOnRoad
           dogsBelow := hs.dogsBelow
           lootBelow := fun i hi => ?_ }
  · refine List.nodup_append.mpr ⟨hs.lootIds, List.nodup_range', ?_⟩
    intro i hi j hj hij
    have := hs.lootBelow i hi
    have := (hnew j hj).1
    omega
  · rcases List.mem_append.mp (hperm.subset hi) with hi | hi
    · exact Nat.lt_add_right n (hs.lootBelow i hi)
    · exact (hnew i hi).2

/-- What the spawning phase leaves: the session with a new supply and stream, or with items
placed as well and the loot counter moved past them. -/
theorem spawnLoot_eq {dt : Duration} {r : Except SessionError Nat}
    (h : s.spawnLoot dt = .ok (s', r)) :
    (∃ sup st, s' = { s with supply := sup, stream := st }) ∨
      ∃ sup n st st', s' = { s with
        supply := sup
        loot := (Session.placeLoot s.map.roads.roads s.map.lootKinds.length n s.nextLootId s.loot st).1
        stream := st'
        nextLootId := s.nextLootId + n } := by
  obtain ⟨_, _, -, ⟨-, rfl, -⟩ | ⟨-, -, rfl, -⟩ | ⟨-, -, rfl, -⟩⟩ :=
    spawnLoot_cases h
  · exact .inl ⟨_, _, rfl⟩
  · -- the loot counter refused: the supply is put back
    exact .inl ⟨s.supply, _, rfl⟩
  · exact .inr ⟨_, _, _, _, rfl⟩

/-- The spawning phase keeps a session consistent with its counters ahead, whether it
spawns, has nothing to spawn or is refused by the loot counter. -/
theorem spawnLoot_inv (hs : s.Inv) {dt : Duration} {r : Except SessionError Nat}
    (h : s.spawnLoot dt = .ok (s', r)) : s'.Inv := by
  rcases spawnLoot_eq h with ⟨sup, st, rfl⟩ | ⟨sup, n, st, st', rfl⟩
  · exact { toSound := hs.toSound.of_eq rfl rfl rfl rfl rfl
            dogsBelow := hs.dogsBelow, lootBelow := hs.lootBelow }
  · exact hs.placeLoot sup n st st'

theorem spawnLoot_map {dt : Duration} {r : Except SessionError Nat}
    (h : s.spawnLoot dt = .ok (s', r)) : s'.map = s.map := by
  rcases spawnLoot_eq h with ⟨sup, st, rfl⟩ | ⟨sup, n, st, st', rfl⟩ <;> rfl

/-! ## Gathering -/

/-- Stores with the same places have the same tags. -/
theorem tags_of_places_eq {st st' : Store Dog} (h : places st' = places st) : tags st' = tags st := by
  have := congrArg (List.map fun a => (a.1, a.2.1, a.2.2.1)) h
  simpa [tags, places, Function.comp_def] using this

/-- A dog of a store has the id and the places of a dog of any store with the same places. -/
theorem mem_of_places_eq {st st' : Store Dog} (h : places st' = places st) {d' : Dog}
    (hd' : d' ∈ st'.items) :
    ∃ d ∈ st.items, d'.id = d.id ∧ d'.position = d.position ∧ d'.previous = d.previous := by
  have hd'' : d' ∈ st'.slots.toList.map (·.2) := hd'
  obtain ⟨e, he, rfl⟩ := List.mem_map.mp hd''
  have hmem : (e.1, e.2.id, e.2.name, e.2.position, e.2.previous) ∈ places st :=
    h ▸ List.mem_map_of_mem he
  obtain ⟨e', he', heq⟩ := List.mem_map.mp hmem
  simp only [Prod.mk.injEq] at heq
  exact ⟨e'.2, List.mem_map_of_mem he', heq.2.1.symm, heq.2.2.2.1.symm, heq.2.2.2.2.symm⟩

/-- After gathering there are no more items, free or bagged, than before: the picked items
move from the ground to the bags and the delivered ones leave the bags. -/
theorem gather_le :
    ((s.gather.1.loot.items ++ bags s.gather.1.dogs : List Loot) : Multiset Loot) ≤
      (s.loot.items ++ bags s.dogs : List Loot) := by
  have hbags := s.gather_bags
  rw [← Multiset.coe_add, ← Multiset.coe_add, s.gather_loot]
  calc (s.gather.1.loot.items : Multiset Loot) + bags s.gather.1.dogs
      ≤ s.gather.1.loot.items + (bags s.gather.1.dogs + s.deliveredLoot) :=
        (add_le_add_iff_left _).mpr (Multiset.le_add_right _ _)
    _ = s.gather.1.loot.items + s.pickedLoot + bags s.dogs := by
        rw [hbags]
        abel

/-- Gathering keeps a session consistent with its counters ahead. -/
theorem gather_inv (hs : s.Inv) : s.gather.1.Inv := by
  have hplaces := s.gather_places
  obtain ⟨hnodup, hbelow⟩ := hs.lootIds_of_le s.gather_le
  -- the free items left are free items from before
  have hfree : ∀ l ∈ s.gather.1.loot.items, l ∈ s.loot.items := by
    intro l hl
    have hmem : l ∈ (s.loot.items : Multiset Loot) := by
      rw [s.gather_loot]
      exact Multiset.mem_add.mpr (Or.inl hl)
    exact Multiset.mem_coe.mp hmem
  refine { toSound := hs.toSound.withWorld (tags_of_places_eq hplaces)
             (by rw [lootIds_eq]; exact hnodup) (s.gather_fits hs.bags) ?_ fun l hl => hs.lootOnRoad l (hfree l hl)
           dogsBelow := ?_, lootBelow := fun i hi => hbelow i (by rwa [lootIds_eq] at hi) }
  · intro d' hd'
    obtain ⟨d, hd, -, hpos, hprev⟩ := mem_of_places_eq hplaces hd'
    rw [hpos, hprev]
    exact hs.onRoad d hd
  · intro d' hd'
    obtain ⟨d, hd, hid, -⟩ := mem_of_places_eq hplaces hd'
    exact hid ▸ hs.dogsBelow d hd

/-! ## Retirement -/

/-- Filtering out the elements whose key is the key of an element passing `P` leaves the
elements failing it, when keys are distinct. -/
theorem filter_keys {α κ : Type} [BEq κ] [LawfulBEq κ] (key : α → κ) (P : α → Bool) {l : List α}
    (hl : (l.map key).Nodup) :
    l.filter (fun a => !((l.filter P).map key).contains (key a)) = l.filter fun a => !P a := by
  refine List.filter_congr fun a ha => ?_
  by_cases hP : P a = true
  · have hm : key a ∈ (l.filter P).map key := List.mem_map_of_mem (List.mem_filter.mpr ⟨ha, hP⟩)
    simp [hm, hP]
  · have hm : key a ∉ (l.filter P).map key := by
      intro hm
      obtain ⟨b, hb, hkey⟩ := List.mem_map.mp hm
      have hb' := List.mem_filter.mp hb
      rw [List.inj_on_of_nodup_map hl hb'.1 ha hkey] at hb'
      exact hP hb'.2
    simp [hm, hP]

section Retire

variable {dt : Duration} {moved : List Nat} {threshold : Duration}
  {dogs dogs' : Store Dog} {leaving : List (Nat × Record)}

/-- Ageing changes only how long a dog has been alive and when it last moved. -/
theorem age_eq {d d' : Dog} (h : age dt moved d = .ok d') :
    d' = { d with alive := d'.alive, lastMoved := d'.lastMoved } := by
  obtain ⟨alive, -, rfl⟩ := age_eq_ok.mp h
  rfl

/-- Ageing keeps a dog's handle, id and name. -/
theorem Aged.tag {e r : Nat × Dog} (h : Aged dt moved e r) :
    (r.1, r.2.id, r.2.name) = (e.1, e.2.id, e.2.name) := by
  rw [h.1, age_eq h.2]

/-- The tags after a retirement phase are a permutation of a sublist of those before. -/
theorem retire_tags (h : retire dogs dt moved threshold = .ok (dogs', leaving)) :
    ∃ l, (tags dogs').Perm l ∧ l.Sublist (tags dogs) := by
  obtain ⟨slots, hF, -, hstay, -⟩ := retire_split h
  refine ⟨_, List.Perm.map (fun e : Nat × Dog => (e.1, e.2.id, e.2.name)) hstay, ?_⟩
  rw [tags, Aged.map_eq (fun _ _ h => Aged.tag h) hF]
  exact List.filter_sublist.map _

/-- Every dog a retirement phase keeps is a dog from before it, aged. -/
theorem retire_backed (h : retire dogs dt moved threshold = .ok (dogs', leaving)) :
    ∀ d' ∈ dogs'.items, ∃ d ∈ dogs.items, d' = { d with alive := d'.alive, lastMoved := d'.lastMoved } := by
  obtain ⟨slots, hF, -, hstay, -⟩ := retire_split h
  intro d' hd'
  have hd'' : d' ∈ dogs'.slots.toList.map (·.2) := hd'
  obtain ⟨r, hr, rfl⟩ := List.mem_map.mp hd''
  obtain ⟨e, he, hae⟩ := forall₂_exists_of_mem hF.flip (List.mem_filter.mp (hstay.subset hr)).1
  exact ⟨e.2, List.mem_map_of_mem he, age_eq hae.2⟩

/-- What a retirement phase keeps, read through an entry `g` of each dog with its handle
whose key a dog's record also carries: the entries after it are the entries before it
without those whose key belongs to a leaving dog. -/
theorem retire_entries {κ : Type} [BEq κ] [LawfulBEq κ] (g : Nat × Dog → κ × Nat)
    (key : Nat × Record → κ) (hg : ∀ e r, Aged dt moved e r → g r = g e)
    (hkey : ∀ r : Nat × Dog, key (r.2.id, ⟨r.2.name, r.2.score, r.2.alive⟩) = (g r).1)
    (hkeys : (dogs.slots.toList.map fun e => (g e).1).Nodup)
    (h : retire dogs dt moved threshold = .ok (dogs', leaving)) :
    ((dogs.slots.toList.map g).filter fun e => !(leaving.map key).contains e.1).Perm
      (dogs'.slots.toList.map g) := by
  obtain ⟨slots, hF, -, hstay, hleave⟩ := retire_split h
  have hmap : dogs.slots.toList.map g = slots.map g := Aged.map_eq hg hF
  have hkeys' : (slots.map fun e => (g e).1).Nodup :=
    Aged.nodup_map (fun e r h => congrArg Prod.fst (hg e r h)) hF hkeys
  -- the leaving keys are the keys of the aged dogs that retire
  have hL : (leaving.map key).Perm
      ((slots.filter fun e => decide (e.2.idle > threshold)).map fun e => (g e).1) := by
    refine (hleave.map key).trans ?_
    simp only [List.map_map, Function.comp_def, hkey]
    exact List.Perm.refl _
  rw [hmap, List.filter_map]
  have hfilter : slots.filter ((fun e => !(leaving.map key).contains e.1) ∘ g) =
      slots.filter fun e => !decide (e.2.idle > threshold) := by
    rw [← filter_keys (fun e => (g e).1) _ hkeys']
    congr 1
    funext e
    simp only [Function.comp_def, hL.contains_eq]
  rw [hfilter]
  exact (hstay.map g).symm

end Retire

/-- A retirement phase keeps a session consistent with its counters ahead when the
leaving dogs' ids and names leave the indexes. -/
theorem retire_inv (hs : s.Inv) {dt : Duration} {moved : List Nat} {threshold : Duration}
    {dogs : Store Dog} {leaving : List (Nat × Record)}
    (h : retire s.dogs dt moved threshold = .ok (dogs, leaving)) :
    ({ s with
        dogs := dogs
        dogIndex := s.dogIndex.filter fun e => !(leaving.map (·.1)).contains e.1
        names := s.names.filter fun e => !(leaving.map (·.2.name)).contains e.1 } : Session).Inv := by
  obtain ⟨l, htags, hsub⟩ := retire_tags h
  -- a projection of the tags with no repeats before has none after
  have hkeep : ∀ {β : Type} (f : Nat × Nat × String → β), ((tags s.dogs).map f).Nodup →
      ((tags dogs).map f).Nodup :=
    fun f hf => (htags.map f).nodup_iff.mpr ((hsub.map f).nodup hf)
  have hback := retire_backed h
  have hle : ((s.loot.items ++ bags dogs : List Loot) : Multiset Loot) ≤
      (s.loot.items ++ bags s.dogs : List Loot) := by
    obtain ⟨hbags, -⟩ := retire_ok h
    rw [← Multiset.coe_add, ← Multiset.coe_add, hbags]
    exact (add_le_add_iff_left _).mpr (Multiset.le_add_right _ _)
  obtain ⟨hnodup, hbelow⟩ := hs.lootIds_of_le hle
  refine { roads := hs.roads
           ids := ?_
           dogIndex := ?_
           names := ?_
           nameIndex := ?_
           lootIds := by rw [lootIds_eq]; exact hnodup
           bags := fun d' hd' => ?_
           onRoad := fun d' hd' => ?_
           lootOnRoad := hs.lootOnRoad
           dogsBelow := fun d' hd' => ?_
           lootBelow := fun i hi => hbelow i (by rwa [lootIds_eq] at hi) }
  · rw [ids_eq_tags]
    exact hkeep _ (ids_eq_tags s.dogs ▸ hs.ids)
  · exact (hs.dogIndex.filter _).trans (retire_entries (fun e => (e.2.id, e.1)) (·.1)
      (fun _ _ h => by rw [h.1, age_eq h.2]) (fun _ => rfl) (by simpa [Function.comp_def] using hs.ids) h)
  · rw [names_eq_tags]
    exact hkeep _ (names_eq_tags s.dogs ▸ hs.names)
  · have hentries : ∀ st : Store Dog, nameEntries st = st.slots.toList.map fun e => (e.2.name, e.2.id) := by
      intro st
      simp [nameEntries, Function.comp_def]
    rw [hentries]
    refine (hs.nameIndex.filter _).trans ?_
    rw [hentries]
    exact retire_entries (fun e => (e.2.name, e.2.id)) (·.2.name)
      (fun _ _ h => by rw [age_eq h.2]) (fun _ => rfl) (by simpa [Function.comp_def] using hs.names) h
  · obtain ⟨d, hd, e⟩ := hback d' hd'
    rw [e]
    exact hs.bags d hd
  · obtain ⟨d, hd, e⟩ := hback d' hd'
    rw [e]
    exact hs.onRoad d hd
  · obtain ⟨d, hd, e⟩ := hback d' hd'
    rw [e]
    exact hs.dogsBelow d hd

/-! ## A whole tick -/

/-- What a tick leaves: the session as it was when the road graph refuses the movement, the
session after movement and spawning when the loot counter refuses, and otherwise the session
after all four phases, with the leaving dogs' ids and names out of the indexes. -/
theorem tick_outcome {dt : Duration} {r : Except SessionError TickReport}
    (h : s.tick dt = .ok (s', r)) :
    s' = s ∨
      (∃ dogs moved e, moveDogs s.map.roads dt.toSeconds s.dogs = .ok (dogs, moved) ∧
        { s with dogs := dogs }.spawnLoot dt = .ok (s', .error e)) ∨
      ∃ dogs moved s₂ count dogs' leaving,
        moveDogs s.map.roads dt.toSeconds s.dogs = .ok (dogs, moved) ∧
        { s with dogs := dogs }.spawnLoot dt = .ok (s₂, .ok count) ∧
        retire s₂.gather.1.dogs dt moved s₂.retirementTime = .ok (dogs', leaving) ∧
        s' = { s₂.gather.1 with
          dogs := dogs'
          dogIndex := s₂.gather.1.dogIndex.filter fun e => !(leaving.map (·.1)).contains e.1
          names := s₂.gather.1.names.filter fun e => !(leaving.map (·.2.name)).contains e.1 } := by
  rcases tick_cases h with ⟨-, -, rfl, -⟩ | ⟨dogs, moved, e, hmove, hspawn, -⟩ |
      ⟨dogs, moved, s₂, count, dogs', leaving, hmove, hspawn, hretire, rfl, -⟩
  · exact .inl rfl
  · exact .inr (.inl ⟨dogs, moved, e, hmove, hspawn⟩)
  · refine .inr (.inr ⟨dogs, moved, s₂, count, dogs', leaving, hmove, hspawn, hretire, ?_⟩)
    rw [Index.foldl_erase, Index.foldl_erase]

/-- A tick keeps a session consistent with its counters ahead, whatever it answers. -/
theorem tick_inv (hs : s.Inv) {dt : Duration} {r : Except SessionError TickReport}
    (h : s.tick dt = .ok (s', r)) : s'.Inv := by
  rcases tick_outcome h with rfl | ⟨dogs, moved, e, hmove, hspawn⟩ |
    ⟨dogs, moved, s₂, count, dogs', leaving, hmove, hspawn, hretire, rfl⟩
  · exact hs
  · exact spawnLoot_inv (moveDogs_inv hs hmove) hspawn
  · exact retire_inv (gather_inv (spawnLoot_inv (moveDogs_inv hs hmove) hspawn)) hretire

/-- A tick keeps the session's map. -/
theorem tick_map {dt : Duration} {r : Except SessionError TickReport}
    (h : s.tick dt = .ok (s', r)) : s'.map = s.map := by
  rcases tick_outcome h with rfl | ⟨dogs, moved, e, hmove, hspawn⟩ |
    ⟨dogs, moved, s₂, count, dogs', leaving, hmove, hspawn, hretire, rfl⟩
  · rfl
  · have hmap := spawnLoot_map hspawn
    exact hmap
  · have hmap := spawnLoot_map hspawn
    exact hmap

end Session

end DogCourier
